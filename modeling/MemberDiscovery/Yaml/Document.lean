import MemberDiscovery.Yaml.Reference
import MemberDiscovery.Yaml.Scalar

/-! # The value of a YAML document

Aliases are replaced by what they refer to, scalars by what they mean. Collections may be nested
only so deep, aliases may be followed only so often, and the keys of a mapping have to be different
values. `Yaml.parse?` reads a whole text.
-/

namespace MemberDiscovery.Yaml

def maxDepth : Nat := 128

/-- Counts the aliases that may still be followed; fails when there are too many. -/
abbrev Following := StateT Nat Option

namespace Node

/-- Follows an alias. The flag tells whether the node is the content of a tag, which the target of
an alias is not. -/
def follow (definitions : Definitions) (isContent : Bool) : Node Nat → Following (Bool × Node Nat)
  | .alias target => do
    let budget ← get
    if budget = 0 then failure
    else
      set (budget - 1)
      match definitions.find? target with
      | some node => return (false, node)
      | none => failure
  | node => return (isContent, node)

/-- The tag of a node that is a tag of the application: it begins with an exclamation mark, which is
dropped. -/
def applicationTag? (marks : NodeMarks) : Option String :=
  match marks.tag.map String.toList with
  | some ('!' :: rest) => some (String.ofList rest)
  | _ => none

/-- Puts a value below the tag of its node, unless it is the content of a tag already. A tag has a
name. -/
def underTag? (isContent : Bool) (marks : NodeMarks) (value : Yaml) : Option Yaml :=
  match applicationTag? marks with
  | some tag =>
    if isContent then some value else if tag = "" then none else some (.tagged tag value)
  | none => some value

/-- The value of a scalar. The content of a tag is read as if it had none. -/
def scalarValue? (isContent : Bool) (marks : NodeMarks) (text : String) (style : ScalarStyle) :
    Option Yaml := do
  let ownTag := if isContent ∨ (applicationTag? marks).isSome then none else marks.tag
  let value ← ofScalar? ownTag text style
  underTag? isContent marks value

def hasKey (key : Yaml) (entries : List (Yaml × Yaml)) : Bool :=
  entries.any fun entry => entry.1.same key

def addEntry? (entries : List (Yaml × Yaml)) (key value : Yaml) : Option (List (Yaml × Yaml)) :=
  if hasKey key entries then none else some (entries ++ [(key, value)])

/-- The value of a node with at most so many levels of collections. The keys of a mapping that is
the content of a tag are themselves read as contents of a tag. -/
def value? (definitions : Definitions) : Nat → Bool → Node Nat → Following Yaml
  | depth, isContent, node => do
    let (isContent, node) ← follow definitions isContent node
    match node, depth with
    | .scalar marks text style, _ => scalarValue? isContent marks text style
    | .sequence marks items, depth + 1 => do
      let items ← items.mapM (value? definitions depth false)
      underTag? isContent marks (.sequence items)
    | .mapping marks entries, depth + 1 => do
      let keyContent := isContent || (applicationTag? marks).isSome
      let entries ← entries.foldlM (fun (sofar : List (Yaml × Yaml)) entry => do
        let key ← value? definitions depth keyContent entry.1
        let value ← value? definitions depth false entry.2
        addEntry? sofar key value) []
      underTag? isContent marks (.mapping entries)
    | _, _ => failure

end Node

/-- How often aliases may be followed for each mark of a document. -/
def followsPerMark : Nat := 100

/-- The value of a document. -/
def ofNode? (document : Node String) : Option Yaml := do
  let (node, _, definitions) ← document.number? ∅
  let (value, _) ← (node.value? definitions maxDepth false).run (followsPerMark * document.weight)
  return value

def parse? (text : String) : Option Yaml := do
  let tokens ← Token.ofText? text
  let document ← Node.ofTokens? tokens
  ofNode? document

end MemberDiscovery.Yaml
