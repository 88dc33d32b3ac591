import MemberDiscovery.Table
import MemberDiscovery.Error
import MemberDiscovery.Text.Blank

/-! # Property sets

Configuration is a flat set of properties with dotted keys. Several products may share one set: a
`Scope` sees only the properties under its own name and reads them as texts, booleans and integers.
Blank values count as absent, and a value of the wrong shape is an error that names the full key.
-/

namespace MemberDiscovery

abbrev PropertySet := Table String

/-- The properties under one name. -/
structure Scope where
  properties : PropertySet
  /-- The name that the keys start with. -/
  name : String

namespace PropertySet

def scope (properties : PropertySet) (name : String) : Scope := ⟨properties, name⟩

end PropertySet

namespace Scope

def key (scope : Scope) (suffix : String) : String :=
  scope.name ++ "." ++ suffix

def get? (scope : Scope) (suffix : String) : Option String :=
  ((scope.properties.get? (scope.key suffix)).map Text.trim).filter (· ≠ "")

def text (scope : Scope) (suffix default : String) : String :=
  (scope.get? suffix).getD default

/-- The words `true` and `false` in any case. -/
def readFlag? (value : String) : Option Bool :=
  if Text.equalsIgnoringCase value "true" then some true
  else if Text.equalsIgnoringCase value "false" then some false
  else none

def read (scope : Scope) (suffix : String) (default : α) (parse? : String → Option α) :
    Except ClientError α :=
  match scope.get? suffix with
  | none => .ok default
  | some value =>
    match parse? value with
    | some result => .ok result
    | none => .error (.invalidProperty (scope.key suffix) value)

def flag (scope : Scope) (suffix : String) (default : Bool) : Except ClientError Bool :=
  scope.read suffix default readFlag?

def int32 (scope : Scope) (suffix : String) (default : Int32) : Except ClientError Int32 :=
  scope.read suffix default Integer.readInt32?

/-- What follows a prefix of a text. -/
def afterPrefix? (head text : String) : Option String :=
  if head.toList.isPrefixOf text.toList then
    some (String.ofList (text.toList.drop head.toList.length))
  else none

/-- The properties below a key, by the rest of their keys. Their values are not trimmed. -/
def below (scope : Scope) (suffix : String) : Table String :=
  Table.ofList (scope.properties.toList.filterMap fun entry =>
    (afterPrefix? (scope.key suffix ++ ".") entry.1).map fun rest => (rest, entry.2))

end Scope

end MemberDiscovery
