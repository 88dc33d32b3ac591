import MemberDiscovery.Number.Shortest
import MemberDiscovery.Number.Integer
import MemberDiscovery.Text.Quoted

/-! # YAML values

The values that YAML documents denote. Keys of a mapping are values of any kind; the entries keep
the order of the document. `Yaml.describe` names a value in messages.
-/

namespace MemberDiscovery

/-- A number of a YAML document. -/
inductive Yaml.Number where
  /-- An integer between the least signed and the greatest unsigned 64-bit integer. -/
  | integer (value : Int)
  | real (value : Binary64)
  | infinity (negative : Bool)
  | notANumber
  deriving DecidableEq, Repr

/-- A YAML value. -/
inductive Yaml where
  | null
  | bool (value : Bool)
  | number (value : Yaml.Number)
  | string (value : String)
  | sequence (items : List Yaml)
  | mapping (entries : List (Yaml × Yaml))
  /-- A value with a tag of the application. -/
  | tagged (tag : String) (value : Yaml)
  deriving Repr, Inhabited

namespace Yaml

def layout : Layout := ⟨false⟩

def Number.render : Number → String
  | .integer value => Integer.render value
  | .real value => String.ofList (layout.render value)
  | .infinity negative => if negative then "-.inf" else ".inf"
  | .notANumber => ".nan"

/-- Equality of numbers. Both zeros are equal, and what is not a number equals itself. -/
def Number.same : Number → Number → Bool
  | .real x, .real y => x.numericEq y
  | x, y => x == y

def flagText (value : Bool) : String :=
  if value then "true" else "false"

/-- A tag as it is shown: after an exclamation mark, which is not doubled unless it is all there
is. -/
def showTag (tag : String) : String :=
  match tag.toList with
  | '!' :: c :: rest => "!" ++ String.ofList (c :: rest)
  | _ => "!" ++ tag

mutual

/-- Equality of values. -/
def same : Yaml → Yaml → Bool
  | .null, .null => true
  | .bool x, .bool y => x == y
  | .number x, .number y => x.same y
  | .string x, .string y => x == y
  | .sequence xs, .sequence ys => sameItems xs ys
  | .mapping xs, .mapping ys => sameEntries xs ys && xs.length == ys.length
  | .tagged s x, .tagged t y => showTag s == showTag t && same x y
  | _, _ => false

def sameItems : List Yaml → List Yaml → Bool
  | [], [] => true
  | x :: xs, y :: ys => same x y && sameItems xs ys
  | _, _ => false

def sameEntries : List (Yaml × Yaml) → List (Yaml × Yaml) → Bool
  | [], _ => true
  | (key, value) :: xs, ys => hasEntry key value ys && sameEntries xs ys

/-- Whether a mapping has an entry. -/
def hasEntry (key value : Yaml) : List (Yaml × Yaml) → Bool
  | [] => false
  | (otherKey, otherValue) :: ys =>
    (same key otherKey && same value otherValue) || hasEntry key value ys

end

mutual

/-- A value as messages name it: its kind and its content. -/
def describe : Yaml → String
  | .null => "Null"
  | .bool value => "Bool(" ++ flagText value ++ ")"
  | .number value => "Number(" ++ value.render ++ ")"
  | .string value => "String(" ++ Text.quote value ++ ")"
  | .sequence items => "Sequence [" ++ String.intercalate ", " (describeItems items) ++ "]"
  | .mapping entries =>
    "Mapping \x7b" ++ String.intercalate ", " (describeEntries entries) ++ "\x7d"
  | .tagged tag value =>
    "TaggedValue \x7b tag: " ++ showTag tag ++ ", value: " ++ describe value ++ " \x7d"

def describeItems : List Yaml → List String
  | [] => []
  | item :: items => describe item :: describeItems items

/-- The descriptions of the entries of a mapping. Plain keys are shown without their kind. -/
def describeEntries : List (Yaml × Yaml) → List String
  | [] => []
  | (key, value) :: entries =>
    (describeKey key ++ ": " ++ describe value) :: describeEntries entries

def describeKey : Yaml → String
  | .bool value => flagText value
  | .number value => value.render
  | .string value => Text.quote value
  | .null => "Null"
  | .sequence items => "Sequence [" ++ String.intercalate ", " (describeItems items) ++ "]"
  | .mapping entries =>
    "Mapping \x7b" ++ String.intercalate ", " (describeEntries entries) ++ "\x7d"
  | .tagged tag value =>
    "TaggedValue \x7b tag: " ++ showTag tag ++ ", value: " ++ describe value ++ " \x7d"

end

end Yaml

end MemberDiscovery
