import MemberDiscovery.Proofs.Config.JsonLeaves
import MemberDiscovery.Proofs.Config.YamlLeaves

/-! # One tree in two formats

A tree of mappings, sequences and scalars can be written as YAML and as JSON. YAML keeps the entries
of a mapping in the order of the document, JSON has them in the order of their keys. So the two
formats may differ in which of two leaves with one joined key comes last, and in nothing else
(`flattenings_agree_iff`).
-/

namespace MemberDiscovery

open Branching (Listed)

/-- A tree that both formats can write. -/
inductive Tree where
  | null
  | bool (value : Bool)
  | integer (value : Int)
  | string (value : String)
  | sequence (items : List Tree)
  /-- The entries are in the order of the document. -/
  | mapping (entries : List (String × Tree))

namespace Tree

mutual

def toYaml : Tree → Yaml
  | .null => .null
  | .bool value => .bool value
  | .integer value => .number (.integer value)
  | .string value => .string value
  | .sequence items => .sequence (toYamlItems items)
  | .mapping entries => .mapping (toYamlEntries entries)

def toYamlItems : List Tree → List Yaml
  | [] => []
  | item :: items => item.toYaml :: toYamlItems items

def toYamlEntries : List (String × Tree) → List (Yaml × Yaml)
  | [] => []
  | (key, value) :: entries => (.string key, value.toYaml) :: toYamlEntries entries

end

mutual

def toJson : Tree → Json
  | .null => .null
  | .bool value => .bool value
  | .integer value => .int value
  | .string value => .string value
  | .sequence items => .array (toJsonItems items)
  | .mapping entries => .ofMembers (toJsonMembers entries)

def toJsonItems : List Tree → List Json
  | [] => []
  | item :: items => item.toJson :: toJsonItems items

def toJsonMembers : List (String × Tree) → List (String × Json)
  | [] => []
  | (key, value) :: entries => (key, value.toJson) :: toJsonMembers entries

end

mutual

/-- The text of a tree as a leaf. A mapping inside a sequence has none. -/
def leafText : Tree → String
  | .null | .mapping _ => ""
  | .bool value => toString value
  | .integer value => Integer.render value
  | .string value => value
  | .sequence items => String.intercalate "," (leafTexts items)

def leafTexts : List Tree → List String
  | [] => []
  | item :: items => item.leafText :: leafTexts items

end

/-- The entries of a mapping are its children, and everything else is a leaf. -/
def branching : Branching Tree where
  Leaf tree text := (∀ entries, tree ≠ .mapping entries) ∧ text = tree.leafText
  Child tree place key child := ∃ entries, tree = .mapping entries ∧
    entries[place]? = some (key, child)
  leaf_unique := by
    rintro tree text other ⟨-, rfl⟩ ⟨-, rfl⟩
    rfl
  not_child := by
    rintro tree text place key child ⟨hleaf, -⟩ ⟨entries, htree, -⟩
    exact hleaf entries htree
  child_unique := by
    rintro tree place key child other next ⟨entries, rfl, hchild⟩ ⟨_, heq, hnext⟩
    obtain rfl := mapping.inj heq
    rw [hchild] at hnext
    exact Prod.mk.inj (Option.some.inj hnext)

/-- A tree is reached from another one through keys of mappings. -/
inductive Reaches : Tree → Tree → Prop where
  | refl (tree : Tree) : Reaches tree tree
  | entry {entries : List (String × Tree)} {key : String} {child node : Tree}
      (hentry : (key, child) ∈ entries) (hrest : Reaches child node) :
      Reaches (.mapping entries) node

/-- Something holds of the entries of each mapping that is reached. -/
def Everywhere (P : List (String × Tree) → Prop) (tree : Tree) : Prop :=
  ∀ entries, tree.Reaches (.mapping entries) → P entries

/-- The keys of each mapping differ. -/
def Distinct : Tree → Prop :=
  Everywhere fun entries => entries.Pairwise fun first second => first.1 ≠ second.1

/-- The keys of each mapping ascend in the order of the document. -/
def Ascending : Tree → Prop :=
  Everywhere fun entries => entries.Pairwise fun first second => first.1 < second.1

/-- No key has a dot in it. -/
def Dotless : Tree → Prop :=
  Everywhere fun entries => ∀ entry ∈ entries, '.' ∉ entry.1.toList

/-- Joined keys tell the leaves apart. -/
def Unambiguous (tree : Tree) : Prop :=
  ∀ keys laters text later, branching.LeafUnder tree keys text →
    branching.LeafUnder tree laters later → keys ≠ [] → laters ≠ [] →
      String.intercalate "." keys = String.intercalate "." laters → keys = laters

section Everywhere

variable {P : List (String × Tree) → Prop}

theorem everywhere_mapping_iff {entries : List (String × Tree)} :
    (mapping entries).Everywhere P ↔ P entries ∧ ∀ entry ∈ entries, entry.2.Everywhere P := by
  constructor
  · exact fun hall => ⟨hall entries (.refl _), fun entry hentry inner hinner =>
      hall inner (.entry hentry hinner)⟩
  · rintro ⟨hentries, hall⟩ inner hinner
    cases hinner with
    | refl => exact hentries
    | entry hentry hrest => exact hall _ hentry inner hrest

theorem everywhere_of_ne_mapping {tree : Tree} (htree : ∀ entries, tree ≠ .mapping entries) :
    tree.Everywhere P := by
  intro entries hreaches
  cases hreaches with
  | refl => exact absurd rfl (htree entries)
  | entry => exact absurd rfl (htree _)

theorem everywhere_of_child {tree child : Tree} {place : Nat} {key : String}
    (htree : tree.Everywhere P) (hchild : branching.Child tree place key child) :
    child.Everywhere P := by
  obtain ⟨entries, rfl, hentry⟩ := hchild
  exact (everywhere_mapping_iff.mp htree).2 _ (List.mem_of_getElem? hentry)

end Everywhere

/-! ## As YAML -/

mutual

theorem leafText_toYaml : ∀ tree : Tree, tree.toYaml.leafText = tree.leafText
  | .null | .integer _ | .string _ | .mapping _ => by
      simp [toYaml, leafText, Yaml.leafText, Yaml.Number.render]
  | .bool value => Yaml.flagText_eq value
  | .sequence items => by rw [toYaml, Yaml.leafText, leafTexts_toYamlItems items, leafText]

theorem leafTexts_toYamlItems : ∀ items : List Tree,
    Yaml.leafTexts (toYamlItems items) = leafTexts items
  | [] => rfl
  | item :: items => by
      rw [toYamlItems, Yaml.leafTexts, leafText_toYaml item, leafTexts_toYamlItems items, leafTexts]

end

theorem exists_enumerates_toYaml_leaf {tree : Tree} (hleaf : ∀ entries, tree ≠ .mapping entries)
    (path : Option String) : ∃ leaves, branching.Enumerates tree leaves ∧
      tree.toYaml.leaves path = .ok (leaves.filterMap fun leaf : Listed => leaf.keyed? path) := by
  refine ⟨_, .leaf ⟨hleaf, rfl⟩, ?_⟩
  rw [← leafText_toYaml]
  cases tree with
  | mapping entries => exact absurd rfl (hleaf entries)
  | _ => exact Yaml.leaves_plain (by simp [toYaml]) (by simp [toYaml]) path

mutual

theorem exists_enumerates_toYaml : ∀ (tree : Tree) (path : Option String),
    ∃ leaves, branching.Enumerates tree leaves ∧
      tree.toYaml.leaves path = .ok (leaves.filterMap fun leaf : Listed => leaf.keyed? path)
  | .mapping entries, path => by
      obtain ⟨leaves, hleaves, heq⟩ := exists_enumeratesFrom_toYaml entries 0 path
      refine ⟨leaves, hleaves.enumerates ?_ ?_, by rw [toYaml, Yaml.leaves, heq]⟩
      · rintro text ⟨hleaf, -⟩
        exact hleaf entries rfl
      · intro place key child
        constructor
        · rintro ⟨_, heq, hchild⟩
          obtain rfl := mapping.inj heq
          exact hchild
        · exact fun hchild => ⟨entries, rfl, hchild⟩
  | .null, path | .bool _, path | .integer _, path | .string _, path | .sequence _, path =>
      exists_enumerates_toYaml_leaf (by simp) path

theorem exists_enumeratesFrom_toYaml : ∀ (entries : List (String × Tree)) (start : Nat)
    (path : Option String), ∃ leaves, branching.EnumeratesFrom start entries leaves ∧
      Yaml.leavesOfEntries path (toYamlEntries entries) =
        .ok (leaves.filterMap fun leaf : Listed => leaf.keyed? path)
  | [], start, path => ⟨[], .nil start, rfl⟩
  | (key, value) :: entries, start, path => by
      obtain ⟨first, hfirst, hfirstEq⟩ :=
        exists_enumerates_toYaml value (some (PropertySet.joinKey path key))
      obtain ⟨others, hothers, hothersEq⟩ := exists_enumeratesFrom_toYaml entries (start + 1) path
      refine ⟨_, .cons hfirst hothers, ?_⟩
      rw [toYamlEntries, Yaml.leavesOfEntries, hothersEq, List.filterMap_append,
        List.filterMap_map]
      dsimp only [Yaml.keyText?]
      rw [hfirstEq]
      rfl

end

/-! ## As JSON -/

mutual

theorem leafText_toJson : ∀ tree : Tree, tree.toJson.leafText = tree.leafText
  | .null | .integer _ | .string _ => by
      simp [toJson, leafText, Json.leafText, Json.int, Json.Number.render]
  | .mapping _ => by simp [toJson, leafText, Json.ofMembers, Json.leafText]
  | .bool value => by cases value <;> rfl
  | .sequence items => by rw [toJson, Json.leafText, leafTexts_toJsonItems items, leafText]

theorem leafTexts_toJsonItems : ∀ items : List Tree,
    Json.leafTexts (toJsonItems items) = leafTexts items
  | [] => rfl
  | item :: items => by
      rw [toJsonItems, Json.leafTexts, leafText_toJson item, leafTexts_toJsonItems items, leafTexts]

end

theorem toJsonMembers_eq_map (entries : List (String × Tree)) :
    toJsonMembers entries = entries.map fun entry => (entry.1, entry.2.toJson) := by
  induction entries with
  | nil => rfl
  | cons entry entries ih => rw [toJsonMembers, ih]; rfl

mutual

theorem ascending_toJson : ∀ tree : Tree, tree.toJson.Ascending
  | .mapping entries => by
      rw [toJson]
      exact Json.ascending_ofMembers (ascending_toJsonMembers entries)
  | .null | .bool _ | .integer _ | .string _ | .sequence _ =>
      Json.ascending_of_ne_object (by simp [toJson, Json.int])

theorem ascending_toJsonMembers : ∀ entries : List (String × Tree),
    ∀ member ∈ toJsonMembers entries, member.2.Ascending
  | [] => by simp [toJsonMembers]
  | (key, value) :: entries => by
      rw [toJsonMembers]
      exact List.forall_mem_cons.mpr ⟨ascending_toJson value, ascending_toJsonMembers entries⟩

end

/-- The children of an object are those of the mapping, at other places. -/
theorem exists_child_toJson_mapping_iff {entries : List (String × Tree)}
    (hdistinct : entries.Pairwise fun first second => first.1 ≠ second.1) {key : String}
    {child : Json} :
    (∃ place, Json.branching.Child (mapping entries).toJson place key child) ↔
      ∃ place next, branching.Child (mapping entries) place key next ∧ child = next.toJson := by
  have hkeys : (toJsonMembers entries).Pairwise fun first second => first.1 ≠ second.1 := by
    rw [toJsonMembers_eq_map]
    exact List.pairwise_map.mpr hdistinct
  have hmem : (∃ place, Json.branching.Child (mapping entries).toJson place key child) ↔
      (key, child) ∈ toJsonMembers entries := by
    rw [← (Table.entries_ofList_perm hkeys).mem_iff, List.mem_iff_getElem?]
    refine exists_congr fun place => ?_
    constructor
    · rintro ⟨members, hmembers, hchild⟩
      rw [toJson, Json.ofMembers] at hmembers
      exact Json.object.inj hmembers ▸ hchild
    · exact fun hchild => ⟨_, by rw [toJson, Json.ofMembers], hchild⟩
  rw [hmem, toJsonMembers_eq_map, List.mem_map]
  constructor
  · rintro ⟨⟨other, next⟩, hentry, heq⟩
    obtain ⟨rfl, rfl⟩ := Prod.mk.inj heq
    obtain ⟨place, hplace⟩ := List.mem_iff_getElem?.mp hentry
    exact ⟨place, next, ⟨entries, rfl, hplace⟩, rfl⟩
  · rintro ⟨place, next, ⟨_, heq, hchild⟩, rfl⟩
    obtain rfl := mapping.inj heq
    exact ⟨(key, next), List.mem_of_getElem? hchild, rfl⟩

theorem toJson_ne_object {tree : Tree} (htree : ∀ entries, tree ≠ .mapping entries)
    (members : List (String × Json)) : tree.toJson ≠ .object members := by
  cases tree with
  | mapping entries => exact absurd rfl (htree entries)
  | _ => simp [toJson, Json.int]

theorem exists_child_toJson_iff {tree : Tree} (hdistinct : tree.Distinct) {key : String}
    {child : Json} : (∃ place, Json.branching.Child tree.toJson place key child) ↔
      ∃ place next, branching.Child tree place key next ∧ child = next.toJson := by
  by_cases htree : ∃ entries, tree = .mapping entries
  · obtain ⟨entries, rfl⟩ := htree
    exact exists_child_toJson_mapping_iff (hdistinct entries (.refl _))
  · constructor
    · rintro ⟨place, members, hmembers, -⟩
      exact absurd hmembers (toJson_ne_object (fun entries heq => htree ⟨entries, heq⟩) members)
    · rintro ⟨place, next, ⟨entries, heq, -⟩, -⟩
      exact absurd ⟨entries, heq⟩ htree

theorem leaf_toJson_iff {tree : Tree} {text : String} :
    Json.branching.Leaf tree.toJson text ↔ branching.Leaf tree text := by
  constructor
  · rintro ⟨hleaf, htext⟩
    refine ⟨?_, by rw [htext.eq_leafText, leafText_toJson]⟩
    rintro entries rfl
    exact hleaf _ rfl
  · rintro ⟨hleaf, rfl⟩
    exact ⟨toJson_ne_object hleaf, leafText_toJson tree ▸ Json.hasText_leafText _⟩

/-- Sorting the entries of mappings keeps every leaf under its keys. -/
theorem leafUnder_toJson_iff {tree : Tree} (hdistinct : tree.Distinct) {keys : List String}
    {text : String} :
    Json.branching.LeafUnder tree.toJson keys text ↔ branching.LeafUnder tree keys text := by
  induction keys generalizing tree with
  | nil => rw [Branching.leafUnder_nil_iff, Branching.leafUnder_nil_iff, leaf_toJson_iff]
  | cons key keys ih =>
      rw [Branching.leafUnder_cons_iff, Branching.leafUnder_cons_iff]
      constructor
      · rintro ⟨child, hchild, hrest⟩
        obtain ⟨place, next, hnext, rfl⟩ := (exists_child_toJson_iff hdistinct).mp hchild
        exact ⟨next, ⟨place, hnext⟩, (ih (everywhere_of_child hdistinct hnext)).mp hrest⟩
      · rintro ⟨next, ⟨place, hnext⟩, hrest⟩
        exact ⟨next.toJson, (exists_child_toJson_iff hdistinct).mpr ⟨place, next, hnext, rfl⟩,
          (ih (everywhere_of_child hdistinct hnext)).mpr hrest⟩

/-! ## Both -/

theorem place_eq_of_children {tree child next : Tree} {place other : Nat} {key : String}
    (htree : tree.Distinct) (hchild : branching.Child tree place key child)
    (hnext : branching.Child tree other key next) : place = other := by
  obtain ⟨entries, rfl, hentry⟩ := hchild
  obtain ⟨_, heq, hother⟩ := hnext
  obtain rfl := mapping.inj heq
  exact Branching.place_eq_of_getElem? (htree entries (.refl _)) hentry hother

theorem keys_lt_of_children {tree child next : Tree} {place other : Nat} {key later : String}
    (htree : tree.Ascending) (hchild : branching.Child tree place key child)
    (hnext : branching.Child tree other later next) (hlt : place < other) : key < later := by
  obtain ⟨entries, rfl, hentry⟩ := hchild
  obtain ⟨_, heq, hother⟩ := hnext
  obtain rfl := mapping.inj heq
  exact Branching.key_lt_of_getElem? (htree entries (.refl _)) hentry hother hlt

/-- There is one leaf under the same keys. -/
theorem text_eq_of_leafUnder {tree : Tree} (htree : tree.Distinct) {keys : List String}
    {text other : String} (hleaf : branching.LeafUnder tree keys text)
    (hother : branching.LeafUnder tree keys other) : text = other := by
  obtain ⟨places, hleaf⟩ := hleaf
  obtain ⟨others, hother⟩ := hother
  obtain rfl :=
    Branching.LeafAt.places_eq everywhere_of_child place_eq_of_children htree hleaf hother
  exact (hleaf.unique hother).2

theorem dotless_of_leafAt {tree : Tree} {places : List Nat} {keys : List String} {text : String}
    (htree : tree.Dotless) (hleaf : branching.LeafAt tree places keys text) :
    ∀ key ∈ keys, '.' ∉ key.toList := by
  induction hleaf with
  | here => simp
  | child hchild _ ih =>
      refine List.forall_mem_cons.mpr ⟨?_, ih (everywhere_of_child htree hchild)⟩
      obtain ⟨entries, rfl, hentry⟩ := hchild
      exact htree entries (.refl _) _ (List.mem_of_getElem? hentry)

theorem unambiguous_of_dotless {tree : Tree} (htree : tree.Dotless) : tree.Unambiguous := by
  rintro keys laters text later ⟨places, hleaf⟩ ⟨others, hlater⟩ hkeys hlaters heq
  exact Branching.join_injective hkeys hlaters (dotless_of_leafAt htree hleaf)
    (dotless_of_leafAt htree hlater) heq

/-- As YAML, a key stands for the last leaf in the order of the document. -/
theorem exists_ofYaml (tree : Tree) : ∃ properties,
    PropertySet.ofYaml tree.toYaml = .ok properties ∧
    (∀ key text, properties.get? key = some text ↔ branching.LastLeaf tree key text) ∧
    ∀ key, properties.contains key = true ↔ ∃ keys text, branching.LeafUnder tree keys text ∧
      keys ≠ [] ∧ String.intercalate "." keys = key := by
  obtain ⟨leaves, hleaves, heq⟩ := exists_enumerates_toYaml tree none
  refine ⟨_, by rw [PropertySet.ofYaml, heq]; rfl, ?_, ?_⟩
  · exact fun key text => hleaves.get?_iff
  · exact fun key => hleaves.contains_iff

/-- As JSON, a key stands for the leaf under the greatest keys. -/
theorem get?_ofJson_iff {tree : Tree} (htree : tree.Distinct) {key text : String} :
    (PropertySet.ofJson tree.toJson).get? key = some text ↔
      branching.GreatestLeaf tree key text := by
  have hjson : tree.toJson.Ascending := ascending_toJson tree
  rw [Json.get?_ofJson_iff,
    Branching.lastLeaf_iff_greatestLeaf (Json.places_lt_iff_keys_lt hjson)]
  simp only [Branching.GreatestLeaf, leafUnder_toJson_iff htree]

theorem contains_ofJson_iff {tree : Tree} (htree : tree.Distinct) {key : String} :
    (PropertySet.ofJson tree.toJson).contains key = true ↔
      ∃ keys text, branching.LeafUnder tree keys text ∧ keys ≠ [] ∧
        String.intercalate "." keys = key := by
  obtain ⟨leaves, hleaves, heq⟩ := Json.exists_enumerates tree.toJson none
  rw [PropertySet.ofJson, heq, hleaves.contains_iff]
  simp only [leafUnder_toJson_iff htree]

end Tree

/-- Both formats give a tree properties of the same names. As YAML a name stands for the last leaf
in the order of the document, as JSON for the one under the greatest keys, so the flat sets are
equal if and only if these have one text for every name: always if joined keys tell leaves apart, as
they do where no key has a dot in it, and if the document has its keys in ascending order. -/
theorem flattenings_agree_iff (tree : Tree) (hdistinct : tree.Distinct) :
    ∃ properties, PropertySet.ofYaml tree.toYaml = .ok properties ∧
      (∀ key text, properties.get? key = some text ↔ Tree.branching.LastLeaf tree key text) ∧
      (∀ key text, (PropertySet.ofJson tree.toJson).get? key = some text ↔
        Tree.branching.GreatestLeaf tree key text) ∧
      (∀ key, properties.contains key = (PropertySet.ofJson tree.toJson).contains key) ∧
      (properties = PropertySet.ofJson tree.toJson ↔
        ∀ key last greatest, Tree.branching.LastLeaf tree key last →
          Tree.branching.GreatestLeaf tree key greatest → last = greatest) ∧
      (tree.Unambiguous → properties = PropertySet.ofJson tree.toJson) ∧
      (tree.Ascending → properties = PropertySet.ofJson tree.toJson) := by
  obtain ⟨properties, hproperties, hget, hcontains⟩ := tree.exists_ofYaml
  have hjson : ∀ key text, (PropertySet.ofJson tree.toJson).get? key = some text ↔
      Tree.branching.GreatestLeaf tree key text := fun _ _ => Tree.get?_ofJson_iff hdistinct
  have hnames : ∀ key, properties.contains key = (PropertySet.ofJson tree.toJson).contains key := by
    intro key
    rw [Bool.eq_iff_iff, hcontains, Tree.contains_ofJson_iff hdistinct]
  have hiff : properties = PropertySet.ofJson tree.toJson ↔
      ∀ key last greatest, Tree.branching.LastLeaf tree key last →
        Tree.branching.GreatestLeaf tree key greatest → last = greatest := by
    constructor
    · intro heq key last greatest hlast hgreatest
      rw [← hget, heq] at hlast
      rw [← hjson, hlast] at hgreatest
      exact Option.some.inj hgreatest
    · intro hsame
      refine Table.eq_of_contains hnames ?_
      intro key last greatest hlast hgreatest
      exact hsame key last greatest ((hget key last).mp hlast) ((hjson key greatest).mp hgreatest)
  refine ⟨properties, hproperties, hget, hjson, hnames, hiff, ?_, ?_⟩
  · intro hplain
    refine hiff.mpr ?_
    rintro key last greatest ⟨places, keys, hleaf, hne, rfl, -⟩ ⟨laters, hlater, hlaters, hkey, -⟩
    obtain rfl := hplain laters keys greatest last hlater ⟨places, hleaf⟩ hlaters hne hkey
    exact Tree.text_eq_of_leafUnder hdistinct ⟨places, hleaf⟩ hlater
  · intro hascending
    refine Table.ext_get? fun key => Option.ext fun text => ?_
    rw [hget, hjson]
    exact Branching.lastLeaf_iff_greatestLeaf (Branching.LeafAt.places_lt_iff
      Tree.everywhere_of_child Tree.keys_lt_of_children hascending)

namespace Tree

/-- A document whose keys have no dots and are not in order. -/
def unsorted : Tree :=
  .mapping
    [("port", .integer 5701),
     ("lease", .mapping [("renewalInterval", .integer 30), ("duration", .integer (-1))]),
     ("appGroup", .sequence [.string "web", .null, .mapping [("x", .bool true)]])]

/-- A dotted key and a nested path that name the same property. -/
def clashing : Tree :=
  .mapping [("a.b", .integer 1), ("a", .mapping [("b", .integer 2)])]

end Tree

theorem flattenings_of_unsorted_agree :
    Tree.unsorted.Distinct ∧ ∃ properties,
      PropertySet.ofYaml Tree.unsorted.toYaml = .ok properties ∧
      properties = PropertySet.ofJson Tree.unsorted.toJson ∧
      properties.get? "lease.duration" = some "-1" := by
  have hdistinct : Tree.unsorted.Distinct := by
    simp [Tree.unsorted, Tree.Distinct, Tree.everywhere_mapping_iff, Tree.everywhere_of_ne_mapping]
  have hdotless : Tree.unsorted.Dotless := by
    simp [Tree.unsorted, Tree.Dotless, Tree.everywhere_mapping_iff, Tree.everywhere_of_ne_mapping,
      -Prod.forall]
  obtain ⟨properties, hproperties, -, -, -, -, hunambiguous, -⟩ :=
    flattenings_agree_iff Tree.unsorted hdistinct
  have hequal := hunambiguous (Tree.unambiguous_of_dotless hdotless)
  refine ⟨hdistinct, properties, hproperties, hequal, ?_⟩
  rw [hequal]
  decide +kernel

theorem flattenings_of_clashing_differ :
    Tree.clashing.Distinct ∧
      PropertySet.ofYaml Tree.clashing.toYaml ≠ .ok (PropertySet.ofJson Tree.clashing.toJson) := by
  refine ⟨?_, ?_⟩
  · simp [Tree.clashing, Tree.Distinct, Tree.everywhere_mapping_iff, Tree.everywhere_of_ne_mapping]
  · intro heq
    have hyaml : (PropertySet.ofYaml Tree.clashing.toYaml).toOption.bind (·.get? "a.b") =
        some "2" := by
      decide +kernel
    have hjson : (PropertySet.ofJson Tree.clashing.toJson).get? "a.b" = some "1" := by
      decide +kernel
    rw [heq] at hyaml
    exact absurd (hyaml.symm.trans hjson) (by decide)

end MemberDiscovery
