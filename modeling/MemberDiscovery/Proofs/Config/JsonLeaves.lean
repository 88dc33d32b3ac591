import MemberDiscovery.Json.Document
import MemberDiscovery.Proofs.Config.Branching

/-! # The leaves of JSON values

The members of an object are its children, and everything that is no object is a leaf. Main
statements: flattening gives every key the text of the last leaf with that key (`get?_ofJson_iff`),
where the last leaf is the one with the greatest keys if members ascend (`places_lt_iff_keys_lt`),
as they do in all values that are read (`ascending_of_parse?`), and then no leaf is lost unless a
key has a dot in it (`leafCount_ofJson`).
-/

namespace MemberDiscovery

namespace Json

/-- The text of a value as a leaf. -/
inductive HasText : Json → String → Prop where
  | null : HasText .null ""
  | bool (value : Bool) : HasText (.bool value) (toString value)
  | number (value : Json.Number) : HasText (.number value) (String.ofList value.render)
  | string (value : String) : HasText (.string value) value
  | object (members : List (String × Json)) : HasText (.object members) ""
  | array {items : List Json} {texts : List String} (hlength : texts.length = items.length)
      (htexts : ∀ (index : Nat) item text, items[index]? = some item →
        texts[index]? = some text → HasText item text) :
      HasText (.array items) (String.intercalate "," texts)

/-- A value is reached from another one through keys of objects. -/
inductive Reaches : Json → Json → Prop where
  | refl (value : Json) : Reaches value value
  | member {members : List (String × Json)} {key : String} {value node : Json}
      (hmember : (key, value) ∈ members) (hrest : Reaches value node) :
      Reaches (.object members) node

/-- The members of all objects that are reached ascend in their keys. -/
def Ascending (value : Json) : Prop :=
  ∀ members, value.Reaches (.object members) →
    members.Pairwise fun first second => first.1 < second.1

theorem leafTexts_eq_map (items : List Json) : leafTexts items = items.map leafText := by
  induction items with
  | nil => rfl
  | cons item items ih => rw [leafTexts, ih]; rfl

mutual

theorem hasText_leafText : ∀ value : Json, HasText value (leafText value)
  | .null => .null
  | .bool true => .bool true
  | .bool false => .bool false
  | .number value => .number value
  | .string value => .string value
  | .object members => .object members
  | .array items => by
      rw [leafText]
      refine .array (by rw [leafTexts_eq_map, List.length_map]) ?_
      intro index item text hitem htext
      rw [leafTexts_eq_map, List.getElem?_map, hitem] at htext
      obtain rfl := Option.some.inj htext
      exact hasText_of_mem items item (List.mem_of_getElem? hitem)

theorem hasText_of_mem : ∀ (items : List Json), ∀ item ∈ items, HasText item (leafText item)
  | [], _, hmem => absurd hmem List.not_mem_nil
  | first :: items, item, hmem => by
      rcases List.mem_cons.mp hmem with heq | hmem
      · exact heq ▸ hasText_leafText first
      · exact hasText_of_mem items item hmem

end

theorem HasText.eq_leafText {value : Json} {text : String} (htext : HasText value text) :
    text = leafText value := by
  induction htext with
  | null | number | string | object => rfl
  | bool value => cases value <;> rfl
  | @array items texts hlength htexts ih =>
      rw [leafText, leafTexts_eq_map]
      exact congrArg _ (Branching.eq_map_of_getElem? hlength ih)

/-- The members of an object are its children, and everything else is a leaf. -/
def branching : Branching Json where
  Leaf value text := (∀ members, value ≠ .object members) ∧ value.HasText text
  Child value place key child := ∃ members, value = .object members ∧
    members[place]? = some (key, child)
  leaf_unique := by
    rintro value text other ⟨-, htext⟩ ⟨-, hother⟩
    rw [htext.eq_leafText, hother.eq_leafText]
  not_child := by
    rintro value text place key child ⟨hleaf, -⟩ ⟨members, hvalue, -⟩
    exact hleaf members hvalue
  child_unique := by
    rintro value place key child other next ⟨members, rfl, hchild⟩ ⟨_, heq, hnext⟩
    obtain rfl := object.inj heq
    rw [hchild] at hnext
    exact Prod.mk.inj (Option.some.inj hnext)

theorem exists_enumerates_leaf {value : Json} (hleaf : ∀ members, value ≠ .object members)
    (path : Option String) :
    ∃ leaves, branching.Enumerates value leaves ∧
      value.leaves path = leaves.filterMap (·.keyed? path) := by
  refine ⟨_, .leaf ⟨hleaf, hasText_leafText value⟩, ?_⟩
  cases path with
  | none =>
      rw [leaves]
      · rfl
      · exact hleaf
  | some key =>
      rw [leaves]
      · rfl
      · exact hleaf

mutual

theorem exists_enumerates : ∀ (value : Json) (path : Option String),
    ∃ leaves, branching.Enumerates value leaves ∧
      value.leaves path = leaves.filterMap (·.keyed? path)
  | .object members, path => by
      obtain ⟨leaves, hleaves, heq⟩ := exists_enumeratesFrom members 0 path
      refine ⟨leaves, hleaves.enumerates ?_ ?_, by rw [Json.leaves, heq]⟩
      · rintro text ⟨hleaf, -⟩
        exact hleaf members rfl
      · intro place key child
        constructor
        · rintro ⟨_, heq, hchild⟩
          obtain rfl := object.inj heq
          exact hchild
        · exact fun hchild => ⟨members, rfl, hchild⟩
  | .null, path | .bool _, path | .number _, path | .string _, path | .array _, path =>
      exists_enumerates_leaf (by simp) path

theorem exists_enumeratesFrom : ∀ (members : List (String × Json)) (start : Nat)
    (path : Option String), ∃ leaves, branching.EnumeratesFrom start members leaves ∧
      leavesOfMembers path members = leaves.filterMap (·.keyed? path)
  | [], start, path => ⟨[], .nil start, rfl⟩
  | (key, value) :: members, start, path => by
      obtain ⟨first, hfirst, hfirstEq⟩ :=
        exists_enumerates value (some (PropertySet.joinKey path key))
      obtain ⟨others, hothers, hothersEq⟩ := exists_enumeratesFrom members (start + 1) path
      refine ⟨_, .cons hfirst hothers, ?_⟩
      rw [leavesOfMembers, hfirstEq, hothersEq, List.filterMap_append, List.filterMap_map]
      rfl

end

/-! ## Members in the order of their keys -/

section Children

variable {value child next : Json} {place other : Nat} {key later : String}

theorem ascending_of_child (hvalue : value.Ascending)
    (hchild : branching.Child value place key child) : child.Ascending := by
  obtain ⟨members, rfl, hmember⟩ := hchild
  exact fun inner hinner => hvalue inner (.member (List.mem_of_getElem? hmember) hinner)

theorem keys_lt_of_children (hvalue : value.Ascending)
    (hchild : branching.Child value place key child)
    (hnext : branching.Child value other later next) (hlt : place < other) : key < later := by
  obtain ⟨members, rfl, hmember⟩ := hchild
  obtain ⟨_, heq, hother⟩ := hnext
  obtain rfl := object.inj heq
  exact Branching.key_lt_of_getElem? (hvalue members (.refl _)) hmember hother hlt

theorem place_eq_of_children (hvalue : value.Ascending)
    (hchild : branching.Child value place key child)
    (hnext : branching.Child value other key next) : place = other := by
  rcases Nat.lt_trichotomy place other with hlt | heq | hlt
  · exact absurd (keys_lt_of_children hvalue hchild hnext hlt) (String.lt_irrefl _)
  · exact heq
  · exact absurd (keys_lt_of_children hvalue hnext hchild hlt) (String.lt_irrefl _)

end Children

/-- Depth first, leaves come in the order of their keys. -/
theorem places_lt_iff_keys_lt {value : Json} {places others : List Nat}
    {keys laters : List String} {text later : String} (hvalue : value.Ascending)
    (hleaf : branching.LeafAt value places keys text)
    (hother : branching.LeafAt value others laters later) : places < others ↔ keys < laters :=
  Branching.LeafAt.places_lt_iff ascending_of_child keys_lt_of_children hvalue hleaf hother

theorem ascending_of_ne_object {value : Json} (hvalue : ∀ members, value ≠ .object members) :
    value.Ascending := by
  intro members hreaches
  cases hreaches with
  | refl => exact absurd rfl (hvalue members)
  | member => exact absurd rfl (hvalue _)

theorem ascending_ofMembers {members : List (String × Json)}
    (hmembers : ∀ member ∈ members, member.2.Ascending) : (ofMembers members).Ascending := by
  intro inner hreaches
  cases hreaches with
  | refl => exact (Table.ofList members).ascending
  | @member _ key value _ hmember hrest =>
      obtain ⟨before, after, rfl, -⟩ := Table.get?_ofList_iff.mp (Table.mem_entries_iff.mp hmember)
      exact hmembers (key, value) (by simp) inner hrest

mutual

theorem ascending_of_toJson? : ∀ (document : Document) (depth : Nat) (value : Json),
    document.toJson? depth = some value → value.Ascending
  | .null, _, _, hvalue => Option.some.inj hvalue ▸ ascending_of_ne_object (by simp)
  | .bool _, _, _, hvalue => Option.some.inj hvalue ▸ ascending_of_ne_object (by simp)
  | .number _, _, _, hvalue => by
      obtain ⟨_, -, rfl⟩ := Option.map_eq_some_iff.mp hvalue
      exact ascending_of_ne_object (by simp)
  | .string _, _, _, hvalue => by
      obtain ⟨_, -, rfl⟩ := Option.map_eq_some_iff.mp hvalue
      exact ascending_of_ne_object (by simp)
  | .array _, depth, _, hvalue => by
      rw [Document.toJson?] at hvalue
      split at hvalue
      · cases hvalue
      · obtain ⟨_, -, rfl⟩ := Option.map_eq_some_iff.mp hvalue
        exact ascending_of_ne_object (by simp)
  | .object members, depth, _, hvalue => by
      rw [Document.toJson?] at hvalue
      split at hvalue
      · cases hvalue
      · obtain ⟨list, hlist, rfl⟩ := Option.map_eq_some_iff.mp hvalue
        exact ascending_ofMembers (ascending_of_toMembers? members (depth - 1) list hlist)

theorem ascending_of_toMembers? : ∀ (members : List (Option String × Document)) (depth : Nat)
    (list : List (String × Json)), Document.toMembers? depth members = some list →
      ∀ member ∈ list, member.2.Ascending
  | [], _, _, hlist => by
      obtain rfl := Option.some.inj hlist
      simp
  | (key, item) :: members, depth, list, hlist => by
      rw [Document.toMembers?] at hlist
      obtain ⟨name, -, hlist⟩ := Option.bind_eq_some_iff.mp hlist
      obtain ⟨value, hvalue, hlist⟩ := Option.bind_eq_some_iff.mp hlist
      obtain ⟨rest, hrest, hlist⟩ := Option.bind_eq_some_iff.mp hlist
      obtain rfl := Option.some.inj hlist
      exact List.forall_mem_cons.mpr ⟨ascending_of_toJson? item depth value hvalue,
        ascending_of_toMembers? members depth rest hrest⟩

end

/-- Members ascend in every value that is read. -/
theorem ascending_of_parse? {text : String} {value : Json} (hvalue : parse? text = some value) :
    value.Ascending := by
  obtain ⟨document, -, hvalue⟩ := Option.bind_eq_some_iff.mp hvalue
  exact ascending_of_toJson? document _ value hvalue

/-! ## What is kept -/

/-- No key of an object that is reached has a dot in it. -/
def Dotless (value : Json) : Prop :=
  ∀ members key child, value.Reaches (.object members) → (key, child) ∈ members → '.' ∉ key.toList

theorem dotless_of_leafAt {value : Json} {places : List Nat} {keys : List String} {text : String}
    (hvalue : value.Dotless) (hleaf : branching.LeafAt value places keys text) :
    ∀ key ∈ keys, '.' ∉ key.toList := by
  induction hleaf with
  | here => simp
  | child hchild _ ih =>
      obtain ⟨members, rfl, hmember⟩ := hchild
      have hmem := List.mem_of_getElem? hmember
      refine List.forall_mem_cons.mpr ⟨hvalue members _ _ (.refl _) hmem, ih ?_⟩
      exact fun inner key child hinner => hvalue inner key child (.member hmem hinner)

theorem get?_ofJson_iff (value : Json) {key text : String} :
    (PropertySet.ofJson value).get? key = some text ↔ branching.LastLeaf value key text := by
  obtain ⟨leaves, hleaves, heq⟩ := exists_enumerates value none
  rw [PropertySet.ofJson, heq, hleaves.get?_iff]

theorem leafCount_ofJson {value : Json} (hvalue : value.Ascending) (hdotless : value.Dotless) :
    branching.LeafCount value (PropertySet.ofJson value).size := by
  obtain ⟨leaves, hleaves, heq⟩ := exists_enumerates value none
  rw [PropertySet.ofJson, heq]
  exact hleaves.leafCount (dotless_of_leafAt hdotless)
    (Branching.LeafAt.places_eq ascending_of_child place_eq_of_children hvalue)

end Json

end MemberDiscovery
