import MemberDiscovery.Json.Document
import MemberDiscovery.Text.Blank

/-! # Records in JSON texts

A record is written as an object or as an array of its fields in their fixed order. In an object,
members that are no field of the record are skipped whatever they hold, and a field given twice is
an error; in an array, missing fields at the end count as absent and surplus items are an error.
What an absent field means is decided where the record is read: `required`, `withDefault`.
-/

namespace MemberDiscovery.Json

/-- The fields of a record that are present, under their first spelling. -/
abbrev Record := List (String × Document)

namespace Record

/-- Puts the items of an array to the fields in order. -/
def ofItems? : List (List String) → List Document → Option Record
  | _, [] => some []
  | [], _ :: _ => none
  | spellings :: fields, item :: items =>
    (ofItems? fields items).map ((spellings.headD "", item) :: ·)

/-- The one member that is spelled in one of the given ways; `none` if there are several. -/
def member? (members : List (Option String × Document)) (spellings : List String) :
    Option (Option Document) :=
  match members.filter fun entry => entry.1.any spellings.contains with
  | [] => some none
  | [entry] => some (some entry.2)
  | _ => none

/-- Looks up every field among the members of an object. -/
def ofMembers? (members : List (Option String × Document)) : List (List String) → Option Record
  | [] => some []
  | spellings :: fields => do
    let found ← member? members spellings
    let record ← ofMembers? members fields
    return match found with
      | some item => (spellings.headD "", item) :: record
      | none => record

/-- Takes a document as a record. Each field is given by its spellings. -/
def ofDocument? (fields : List (List String)) : Document → Option Record
  | .array items => ofItems? fields items
  | .object members =>
    if members.all (·.1.isSome) then ofMembers? members fields else none
  | _ => none

def required (record : Record) (field : String) (read : Document → Option α) : Option α :=
  (record.lookup field).bind read

/-- A field with a value for its absence. -/
def withDefault (record : Record) (field : String) (read : Document → Option α) (default : α) :
    Option α :=
  match record.lookup field with
  | some item => read item
  | none => some default

end Record

namespace Document

def text? : Document → Option String
  | .string value => value
  | _ => none

/-- A string, or null for its absence. -/
def optionalText? : Document → Option (Option String)
  | .null => some none
  | item => item.text?.map some

def integer? : Document → Option Int
  | .number (some (.integer value)) => some value
  | .string (some value) => Integer.read? (Text.trim value)
  | _ => none

def int32? (item : Document) : Option Int32 :=
  item.integer?.bind Integer.toInt32?

def int64? (item : Document) : Option Int64 :=
  item.integer?.bind Integer.toInt64?

def flag? : Document → Option Bool
  | .bool value => some value
  | .string (some value) =>
    let word := Text.trim value
    if word = "true" then some true else if word = "false" then some false else none
  | _ => none

/-- A word of a fixed vocabulary, also as an object with that word as the only key and null as its
value. -/
def word? : Document → Option String
  | .string value => value
  | .object [(key, .null)] => key
  | _ => none

/-- The key that marks the class of a map and is not part of it. -/
def classKey : String := "@class"

/-- The text of a value in a map of texts: a string stands for itself, anything else for its JSON
text. -/
def entryText : Json → String
  | .string value => value
  | value => value.render

/-- A map of texts without its class marker; null is the empty map. Of two entries with one key the
last counts. -/
def textMap? (depth : Nat) : Document → Option (Table String)
  | .null => some ∅
  | .object members => do
    if depth = 0 then none
    let values ← toMembers? (depth - 1) members
    return ((Table.ofList values).mapValues entryText).erase classKey
  | _ => none

end Document

end MemberDiscovery.Json
