import MemberDiscovery.Config.Leaves
import MemberDiscovery.Yaml.Document

/-! # Properties of a YAML tree

YAML values are flattened like JSON values, in the order of the document. Keys that are texts,
numbers or truth values stand for their text; a mapping with any other key cannot be flattened. Tags
make no difference to values.
-/

namespace MemberDiscovery

namespace Yaml

mutual

/-- The text of a leaf. A mapping inside a sequence has none. -/
def leafText : Yaml → String
  | .null | .mapping _ => ""
  | .bool value => flagText value
  | .number value => value.render
  | .string value => value
  | .sequence items => String.intercalate "," (leafTexts items)
  | .tagged _ value => leafText value

def leafTexts : List Yaml → List String
  | [] => []
  | item :: items => leafText item :: leafTexts items

end

/-- The text of a key. -/
def keyText? : Yaml → Option String
  | .string value => some value
  | .number value => some value.render
  | .bool value => some (flagText value)
  | _ => none

mutual

/-- The leaves of a value below a path, depth first. A leaf that is the whole value has no path and
is left out. -/
def leaves (path : Option String) : Yaml → Except ClientError (List (String × String))
  | .mapping entries => leavesOfEntries path entries
  | .tagged _ value => leaves path value
  | leaf =>
    match path with
    | some key => .ok [(key, leafText leaf)]
    | none => .ok []

def leavesOfEntries (path : Option String) :
    List (Yaml × Yaml) → Except ClientError (List (String × String))
  | [] => .ok []
  | (key, value) :: entries =>
    match keyText? key with
    | some name => do
      let first ← leaves (some (PropertySet.joinKey path name)) value
      let others ← leavesOfEntries path entries
      return first ++ others
    | none => .error (.invalidConfiguration ("unsupported configuration key: " ++ key.describe))

end

end Yaml

namespace PropertySet

def ofYaml (value : Yaml) : Except ClientError PropertySet :=
  (value.leaves none).map Table.ofList

def parseYaml (text : String) : Except ClientError PropertySet :=
  match Yaml.parse? text with
  | some value => ofYaml value
  | none => .error .malformedYaml

end PropertySet

end MemberDiscovery
