import MemberDiscovery.Config.PropertySet
import MemberDiscovery.Json.Document

/-! # Properties of a tree

A tree of nested mappings is flattened to properties: the key of a leaf is the path to it, joined
with dots. Sequences are leaves, too; their text is the texts of their items, joined with commas.
Of two leaves with one key the last counts.
-/

namespace MemberDiscovery

namespace PropertySet

def joinKey (path : Option String) (key : String) : String :=
  match path with
  | some path => path ++ "." ++ key
  | none => key

end PropertySet

namespace Json

mutual

/-- The text of a leaf. An object inside an array has none. -/
def leafText : Json → String
  | .null | .object _ => ""
  | .bool value => if value then "true" else "false"
  | .number value => String.ofList value.render
  | .string value => value
  | .array items => String.intercalate "," (leafTexts items)

def leafTexts : List Json → List String
  | [] => []
  | item :: items => leafText item :: leafTexts items

end

mutual

/-- The leaves of a value below a path, depth first. A leaf that is the whole value has no path and
is left out. -/
def leaves (path : Option String) : Json → List (String × String)
  | .object members => leavesOfMembers path members
  | leaf =>
    match path with
    | some key => [(key, leafText leaf)]
    | none => []

def leavesOfMembers (path : Option String) : List (String × Json) → List (String × String)
  | [] => []
  | (key, value) :: members =>
    leaves (some (PropertySet.joinKey path key)) value ++ leavesOfMembers path members

end

end Json

namespace PropertySet

def ofJson (value : Json) : PropertySet :=
  Table.ofList (value.leaves none)

def parseJson (text : String) : Except ClientError PropertySet :=
  match Json.parse? text with
  | some value => .ok (ofJson value)
  | none => .error .malformedJson

end PropertySet

end MemberDiscovery
