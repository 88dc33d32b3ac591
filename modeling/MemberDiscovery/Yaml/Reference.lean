import MemberDiscovery.Yaml.Node
import MemberDiscovery.Table

/-! # Anchors and aliases

An alias refers to a node by number. The number of an anchor is the count of different names
anchored before it, and an alias gets the number that its name has at that place. A name that is
anchored again therefore does not move the numbers after it, and two anchors may have one number;
the later one in the document is then meant, also by aliases before it.
-/

namespace MemberDiscovery.Yaml

/-- Anchored nodes by number, in the order of their beginnings. -/
abbrev Definitions := List (Nat × Node Nat)

def Definitions.find? (definitions : Definitions) (number : Nat) : Option (Node Nat) :=
  definitions.reverse.lookup number

namespace Node

/-- Numbers the anchor of a node. Gives the numbers of all names seen so far and the definition of
the node once it is known. -/
def anchorAt (numbers : Table Nat) (marks : NodeMarks) : Table Nat × (Node Nat → Definitions) :=
  match marks.anchor with
  | some name => (numbers.insert name numbers.size, fun node => [(numbers.size, node)])
  | none => (numbers, fun _ => [])

mutual

/-- Replaces names by numbers. Fails for an alias whose name is not anchored before it. -/
def number? (numbers : Table Nat) :
    Node String → Option (Node Nat × Table Nat × Definitions)
  | .alias name => (numbers.get? name).map fun target => (.alias target, numbers, [])
  | .scalar marks text style =>
    let (numbers, define) := anchorAt numbers marks
    let node := .scalar marks text style
    some (node, numbers, define node)
  | .sequence marks items => do
    let (numbers, define) := anchorAt numbers marks
    let (items, numbers, definitions) ← numberItems? numbers items
    let node := .sequence marks items
    return (node, numbers, define node ++ definitions)
  | .mapping marks entries => do
    let (numbers, define) := anchorAt numbers marks
    let (entries, numbers, definitions) ← numberEntries? numbers entries
    let node := .mapping marks entries
    return (node, numbers, define node ++ definitions)

def numberItems? (numbers : Table Nat) :
    List (Node String) → Option (List (Node Nat) × Table Nat × Definitions)
  | [] => some ([], numbers, [])
  | item :: items => do
    let (item, numbers, first) ← number? numbers item
    let (items, numbers, definitions) ← numberItems? numbers items
    return (item :: items, numbers, first ++ definitions)

def numberEntries? (numbers : Table Nat) :
    List (Node String × Node String) →
      Option (List (Node Nat × Node Nat) × Table Nat × Definitions)
  | [] => some ([], numbers, [])
  | (key, value) :: entries => do
    let (key, numbers, ofKey) ← number? numbers key
    let (value, numbers, ofValue) ← number? numbers value
    let (entries, numbers, definitions) ← numberEntries? numbers entries
    return ((key, value) :: entries, numbers, ofKey ++ ofValue ++ definitions)

end

mutual

/-- How many marks of beginnings, ends, scalars and aliases a node consists of. -/
def weight : Node Ref → Nat
  | .alias _ | .scalar _ _ _ => 1
  | .sequence _ items => weightOfItems items + 2
  | .mapping _ entries => weightOfEntries entries + 2

def weightOfItems : List (Node Ref) → Nat
  | [] => 0
  | item :: items => weight item + weightOfItems items

def weightOfEntries : List (Node Ref × Node Ref) → Nat
  | [] => 0
  | (key, value) :: entries => weight key + weight value + weightOfEntries entries

end

end Node

end MemberDiscovery.Yaml
