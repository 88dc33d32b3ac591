import MemberDiscovery.Number.Shortest
import MemberDiscovery.Number.Integer
import MemberDiscovery.Table

/-! # JSON values

The values that JSON texts denote. Members of an object stand in ascending key order and no key
occurs twice; `Json.ofMembers` builds such objects. Numbers without fraction and exponent are
integers as long as they fit into 64 bits, all others are doubles.
-/

namespace MemberDiscovery

/-- A number of a JSON text. -/
inductive Json.Number where
  /-- An integer between the least signed and the greatest unsigned 64-bit integer. -/
  | integer (value : Int)
  | real (value : Binary64)
  deriving DecidableEq, Repr

/-- A JSON value. -/
inductive Json where
  | null
  | bool (value : Bool)
  | number (value : Json.Number)
  | string (value : String)
  | array (items : List Json)
  /-- The members ascend in their keys. -/
  | object (members : List (String × Json))
  deriving Repr, Inhabited

namespace Json

def int (value : Int) : Json := .number (.integer value)

/-- An object of the members of a list; of two members with one key the last stays. -/
def ofMembers (members : List (String × Json)) : Json :=
  .object (Table.ofList members).entries

def ofTexts (texts : Table String) : Json :=
  .object (texts.mapValues Json.string).entries

def member? (key : String) : Json → Option Json
  | .object members => members.lookup key
  | _ => none

def layout : Layout := ⟨true⟩

def Number.render : Number → List Char
  | .integer value => (Integer.render value).toList
  | .real value => layout.render value

/-- Two hexadecimal digits. -/
def hexPair (n : Nat) : List Char :=
  [Nat.digitChar (n / 16 % 16), Nat.digitChar (n % 16)]

/-- A character inside a JSON string: controls, the quote and the backslash are escaped. -/
def escapeChar (c : Char) : List Char :=
  if c = '"' then ['\\', '"']
  else if c = '\\' then ['\\', '\\']
  else if c = '\x08' then ['\\', 'b']
  else if c = '\x0c' then ['\\', 'f']
  else if c = '\n' then ['\\', 'n']
  else if c = '\r' then ['\\', 'r']
  else if c = '\t' then ['\\', 't']
  else if c.toNat < 0x20 then ['\\', 'u', '0', '0'] ++ hexPair c.toNat
  else [c]

def renderString (text : String) : List Char :=
  '"' :: text.toList.flatMap escapeChar ++ ['"']

mutual

/-- The compact text of a value, as characters. -/
def renderChars : Json → List Char
  | .null => ['n', 'u', 'l', 'l']
  | .bool true => ['t', 'r', 'u', 'e']
  | .bool false => ['f', 'a', 'l', 's', 'e']
  | .number value => value.render
  | .string value => renderString value
  | .array [] => ['[', ']']
  | .array (item :: items) => '[' :: renderChars item ++ renderItems items
  | .object [] => ['\x7b', '\x7d']
  | .object ((key, value) :: members) =>
    '\x7b' :: renderString key ++ ':' :: renderChars value ++ renderMembers members

/-- The items after the first, each after a comma, and the closing bracket. -/
def renderItems : List Json → List Char
  | [] => [']']
  | item :: items => ',' :: renderChars item ++ renderItems items

/-- The members after the first, each after a comma, and the closing brace. -/
def renderMembers : List (String × Json) → List Char
  | [] => ['\x7d']
  | (key, value) :: members =>
    ',' :: renderString key ++ ':' :: renderChars value ++ renderMembers members

end

def render (value : Json) : String :=
  String.ofList value.renderChars

end Json

end MemberDiscovery
