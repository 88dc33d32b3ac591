import MemberDiscovery.Config.YamlLeaves
import MemberDiscovery.Proofs.Config.Branching

/-! # The leaves of YAML values

The entries of a mapping are its children, everything that is no mapping is a leaf, and tags make no
difference. Main statements: flattening fails only for keys that have no text (`ofYaml_error_iff`);
otherwise it gives every key the text of the last leaf with that key in the order of the document
(`get?_ofYaml_iff`), and no leaf is lost unless keys have dots in them or repeat
(`leafCount_ofYaml`).
-/

namespace MemberDiscovery

open Branching (Listed)

namespace Yaml

/-- The text of a value as a leaf. -/
inductive HasText : Yaml → String → Prop where
  | null : HasText .null ""
  | bool (value : Bool) : HasText (.bool value) (toString value)
  | number (value : Yaml.Number) : HasText (.number value) value.render
  | string (value : String) : HasText (.string value) value
  | mapping (entries : List (Yaml × Yaml)) : HasText (.mapping entries) ""
  | sequence {items : List Yaml} {texts : List String} (hlength : texts.length = items.length)
      (htexts : ∀ (index : Nat) item text, items[index]? = some item →
        texts[index]? = some text → HasText item text) :
      HasText (.sequence items) (String.intercalate "," texts)
  | tagged {tag : String} {value : Yaml} {text : String} (htext : HasText value text) :
      HasText (.tagged tag value) text

/-- A key has a text if it is a text, a number or a truth value. -/
inductive Names : Yaml → String → Prop where
  | bool (value : Bool) : Names (.bool value) (toString value)
  | number (value : Yaml.Number) : Names (.number value) value.render
  | string (value : String) : Names (.string value) value

/-- A value is reached from another one through values of mappings and through tags. -/
inductive Reaches : Yaml → Yaml → Prop where
  | refl (value : Yaml) : Reaches value value
  | entry {entries : List (Yaml × Yaml)} {key value node : Yaml} (hentry : (key, value) ∈ entries)
      (hrest : Reaches value node) : Reaches (.mapping entries) node
  | tagged {tag : String} {value node : Yaml} (hrest : Reaches value node) :
      Reaches (.tagged tag value) node

/-- What is no mapping is a leaf. Tags make no difference. -/
inductive IsLeaf : Yaml → String → Prop where
  | plain {value : Yaml} {text : String} (hmapping : ∀ entries, value ≠ .mapping entries)
      (htagged : ∀ tag inner, value ≠ .tagged tag inner) (htext : HasText value text) :
      IsLeaf value text
  | tagged {tag : String} {value : Yaml} {text : String} (hleaf : IsLeaf value text) :
      IsLeaf (.tagged tag value) text

/-- What stands under a key in a mapping, which may have tags. -/
inductive HasChild : Yaml → Nat → String → Yaml → Prop where
  | entry {entries : List (Yaml × Yaml)} {place : Nat} {key child : Yaml} {name : String}
      (hentry : entries[place]? = some (key, child)) (hname : key.Names name) :
      HasChild (.mapping entries) place name child
  | tagged {tag : String} {value child : Yaml} {place : Nat} {name : String}
      (hchild : HasChild value place name child) : HasChild (.tagged tag value) place name child

theorem flagText_eq (value : Bool) : flagText value = toString value := by
  cases value <;> rfl

theorem leafTexts_eq_map (items : List Yaml) : leafTexts items = items.map leafText := by
  induction items with
  | nil => rfl
  | cons item items ih => rw [leafTexts, ih]; rfl

mutual

theorem hasText_leafText : ∀ value : Yaml, HasText value (leafText value)
  | .null => .null
  | .bool value => by
      rw [leafText, flagText_eq]
      exact .bool value
  | .number value => .number value
  | .string value => .string value
  | .mapping entries => .mapping entries
  | .sequence items => by
      rw [leafText]
      refine .sequence (by rw [leafTexts_eq_map, List.length_map]) ?_
      intro index item text hitem htext
      rw [leafTexts_eq_map, List.getElem?_map, hitem] at htext
      obtain rfl := Option.some.inj htext
      exact hasText_of_mem items item (List.mem_of_getElem? hitem)
  | .tagged tag value => .tagged (hasText_leafText value)

theorem hasText_of_mem : ∀ (items : List Yaml), ∀ item ∈ items, HasText item (leafText item)
  | [], _, hmem => absurd hmem List.not_mem_nil
  | first :: items, item, hmem => by
      rcases List.mem_cons.mp hmem with heq | hmem
      · exact heq ▸ hasText_leafText first
      · exact hasText_of_mem items item hmem

end

theorem HasText.eq_leafText {value : Yaml} {text : String} (htext : HasText value text) :
    text = leafText value := by
  induction htext with
  | null | number | string | mapping => rfl
  | bool value => exact (flagText_eq value).symm
  | tagged _ ih => exact ih
  | @sequence items texts hlength htexts ih =>
      rw [leafText, leafTexts_eq_map]
      exact congrArg _ (Branching.eq_map_of_getElem? hlength ih)

theorem names_iff {key : Yaml} {name : String} : key.Names name ↔ key.keyText? = some name := by
  constructor
  · rintro (value | _ | _)
    · rw [keyText?, flagText_eq]
    · rfl
    · rfl
  · intro hkey
    cases key with
    | bool value =>
        rw [keyText?, flagText_eq] at hkey
        exact Option.some.inj hkey ▸ .bool value
    | number value => exact Option.some.inj hkey ▸ .number value
    | string value => exact Option.some.inj hkey ▸ .string value
    | _ => cases hkey

theorem IsLeaf.unique {value : Yaml} {text other : String} (hleaf : value.IsLeaf text)
    (hother : value.IsLeaf other) : text = other := by
  induction hleaf with
  | plain _ htagged htext =>
      cases hother with
      | plain _ _ hother => rw [htext.eq_leafText, hother.eq_leafText]
      | tagged => exact absurd rfl (htagged _ _)
  | tagged _ ih =>
      cases hother with
      | plain _ htagged => exact absurd rfl (htagged _ _)
      | tagged hother => exact ih hother

theorem IsLeaf.not_hasChild {value child : Yaml} {text key : String} {place : Nat}
    (hleaf : value.IsLeaf text) : ¬ value.HasChild place key child := by
  induction hleaf with
  | plain hmapping htagged =>
      rintro (_ | _)
      · exact hmapping _ rfl
      · exact htagged _ _ rfl
  | tagged _ ih =>
      rintro (_ | hchild)
      exact ih hchild

theorem HasChild.unique {value child next : Yaml} {place : Nat} {key other : String}
    (hchild : value.HasChild place key child) (hnext : value.HasChild place other next) :
    key = other ∧ child = next := by
  induction hchild with
  | entry hentry hname =>
      cases hnext with
      | entry hother hotherName =>
          rw [hentry] at hother
          obtain ⟨rfl, rfl⟩ := Prod.mk.inj (Option.some.inj hother)
          rw [names_iff] at hname hotherName
          rw [hname] at hotherName
          exact ⟨Option.some.inj hotherName, rfl⟩
  | tagged _ ih =>
      cases hnext with
      | tagged hnext => exact ih hnext

/-- The entries of a mapping are its children, and everything else is a leaf. -/
def branching : Branching Yaml where
  Leaf := IsLeaf
  Child := HasChild
  leaf_unique := IsLeaf.unique
  not_child := IsLeaf.not_hasChild
  child_unique := HasChild.unique

/-! ### Keys without texts -/

/-- A mapping that is reached has a key without a text. -/
def HasBadKey (value : Yaml) : Prop :=
  ∃ entries key child, value.Reaches (.mapping entries) ∧ (key, child) ∈ entries ∧
    ∀ name, ¬ key.Names name

theorem hasBadKey_mapping_iff {entries : List (Yaml × Yaml)} :
    HasBadKey (.mapping entries) ↔
      ∃ entry ∈ entries, (∀ name, ¬ entry.1.Names name) ∨ entry.2.HasBadKey := by
  constructor
  · rintro ⟨inner, key, child, hreaches, hmem, hkey⟩
    cases hreaches with
    | refl => exact ⟨(key, child), hmem, .inl hkey⟩
    | entry hentry hrest => exact ⟨_, hentry, .inr ⟨inner, key, child, hrest, hmem, hkey⟩⟩
  · rintro ⟨⟨key, value⟩, hentry, hkey | ⟨inner, other, child, hreaches, hmem, hother⟩⟩
    · exact ⟨entries, key, value, .refl _, hentry, hkey⟩
    · exact ⟨inner, other, child, .entry hentry hreaches, hmem, hother⟩

theorem hasBadKey_tagged_iff {tag : String} {value : Yaml} :
    HasBadKey (.tagged tag value) ↔ value.HasBadKey := by
  constructor
  · rintro ⟨inner, key, child, hreaches, hmem, hkey⟩
    cases hreaches with
    | tagged hrest => exact ⟨inner, key, child, hrest, hmem, hkey⟩
  · rintro ⟨inner, key, child, hreaches, hmem, hkey⟩
    exact ⟨inner, key, child, .tagged hreaches, hmem, hkey⟩

section Plain

variable {value : Yaml} (hmapping : ∀ entries, value ≠ .mapping entries)
  (htagged : ∀ tag inner, value ≠ .tagged tag inner)

include hmapping htagged

theorem leaves_plain (path : Option String) : value.leaves path =
    .ok ([⟨[], [], value.leafText⟩].filterMap fun leaf : Listed => leaf.keyed? path) := by
  cases path with
  | none =>
      rw [leaves]
      · rfl
      · exact hmapping
      · exact htagged
  | some key =>
      rw [leaves]
      · rfl
      · exact hmapping
      · exact htagged

theorem not_hasBadKey_plain : ¬ value.HasBadKey := by
  rintro ⟨entries, key, child, hreaches, -⟩
  cases hreaches with
  | refl => exact hmapping entries rfl
  | entry => exact hmapping _ rfl
  | tagged => exact htagged _ _ rfl

end Plain

mutual

theorem leaves_error_iff : ∀ (value : Yaml) (path : Option String),
    (∃ error, value.leaves path = .error error) ↔ value.HasBadKey
  | .mapping entries, path => by
      rw [hasBadKey_mapping_iff, ← leavesOfEntries_error_iff entries path, leaves]
  | .tagged tag value, path => by
      rw [hasBadKey_tagged_iff, ← leaves_error_iff value path, leaves]
  | .null, path | .bool _, path | .number _, path | .string _, path | .sequence _, path => by
      rw [leaves_plain (by simp) (by simp)]
      exact iff_of_false (by simp) (not_hasBadKey_plain (by simp) (by simp))

theorem leavesOfEntries_error_iff : ∀ (entries : List (Yaml × Yaml)) (path : Option String),
    (∃ error, leavesOfEntries path entries = .error error) ↔
      ∃ entry ∈ entries, (∀ name, ¬ entry.1.Names name) ∨ entry.2.HasBadKey
  | [], path => by simp [leavesOfEntries]
  | (key, value) :: entries, path => by
      have hothers := leavesOfEntries_error_iff entries path
      rw [leavesOfEntries]
      cases hkey : key.keyText? with
      | none =>
          have hnone : ∀ name, ¬ key.Names name := by simp [names_iff, hkey]
          exact iff_of_true ⟨_, rfl⟩ ⟨(key, value), List.mem_cons_self, .inl hnone⟩
      | some name =>
          have hvalue := leaves_error_iff value (some (PropertySet.joinKey path name))
          have hnamed : ¬ ∀ name, ¬ key.Names name :=
            fun hnone => hnone name (names_iff.mpr hkey)
          simp only [List.mem_cons, exists_eq_or_imp, or_iff_right hnamed, ← hvalue, ← hothers]
          cases value.leaves (some (PropertySet.joinKey path name)) with
          | error error => simp [bind, Except.bind]
          | ok first =>
              cases leavesOfEntries path entries <;> simp [bind, Except.bind, pure, Except.pure]

end

/-! ### Leaves in the order of the document -/

/-- The entries of a mapping with the texts of their keys. -/
def named (entries : List (Yaml × Yaml)) : List (String × Yaml) :=
  entries.map fun entry => (entry.1.keyText?.getD "", entry.2)

theorem hasChild_mapping_iff {entries : List (Yaml × Yaml)}
    (hnamed : ∀ entry ∈ entries, ∃ name, entry.1.Names name) {place : Nat} {name : String}
    {child : Yaml} :
    HasChild (.mapping entries) place name child ↔
      (named entries)[place]? = some (name, child) := by
  rw [named, List.getElem?_map, Option.map_eq_some_iff]
  constructor
  · intro hchild
    cases hchild with
    | entry hentry hname => exact ⟨_, hentry, by rw [names_iff.mp hname]; rfl⟩
  · rintro ⟨⟨key, value⟩, hentry, heq⟩
    obtain ⟨other, hother⟩ := hnamed _ (List.mem_of_getElem? hentry)
    rw [names_iff.mp hother] at heq
    obtain ⟨rfl, rfl⟩ := Prod.mk.inj heq
    exact .entry hentry hother

/-- What a mapping is flattened to begins with what its first value is flattened to. -/
theorem exists_of_leavesOfEntries_cons {key value : Yaml} {entries : List (Yaml × Yaml)}
    {path : Option String} {list : List (String × String)}
    (hlist : leavesOfEntries path ((key, value) :: entries) = .ok list) :
    ∃ name first others, key.Names name ∧
      value.leaves (some (PropertySet.joinKey path name)) = .ok first ∧
        leavesOfEntries path entries = .ok others ∧ list = first ++ others := by
  rw [leavesOfEntries] at hlist
  cases hkey : key.keyText? with
  | none =>
      rw [hkey] at hlist
      cases hlist
  | some name =>
      rw [hkey] at hlist
      dsimp only at hlist
      cases hfirst : value.leaves (some (PropertySet.joinKey path name)) with
      | error error =>
          rw [hfirst] at hlist
          cases hlist
      | ok first =>
          cases hothers : leavesOfEntries path entries with
          | error error =>
              rw [hfirst, hothers] at hlist
              cases hlist
          | ok others =>
              rw [hfirst, hothers] at hlist
              exact ⟨name, first, others, names_iff.mpr hkey, hfirst, rfl,
                (Except.ok.inj hlist).symm⟩

theorem leafAt_tagged_iff {tag : String} {value : Yaml} {places : List Nat} {keys : List String}
    {text : String} :
    branching.LeafAt (.tagged tag value) places keys text ↔
      branching.LeafAt value places keys text := by
  constructor
  · intro hleaf
    cases hleaf with
    | here hleaf =>
        cases hleaf with
        | plain _ htagged => exact absurd rfl (htagged tag value)
        | tagged hleaf => exact .here hleaf
    | child hchild hrest =>
        cases hchild with
        | tagged hchild => exact .child hchild hrest
  · intro hleaf
    cases hleaf with
    | here hleaf => exact .here (.tagged hleaf)
    | child hchild hrest => exact .child (.tagged hchild) hrest

mutual

theorem exists_enumerates : ∀ (value : Yaml) (path : Option String) (list : List (String × String)),
    value.leaves path = .ok list →
      ∃ leaves, branching.Enumerates value leaves ∧ list = leaves.filterMap (·.keyed? path)
  | .mapping entries, path, list, hlist => by
      rw [leaves] at hlist
      obtain ⟨leaves, hleaves, hnamed, heq⟩ := exists_enumeratesFrom entries 0 path list hlist
      refine ⟨leaves, hleaves.enumerates ?_ fun _ _ _ => hasChild_mapping_iff hnamed, heq⟩
      rintro text (⟨hmapping, -, -⟩)
      exact hmapping entries rfl
  | .tagged tag value, path, list, hlist => by
      rw [leaves] at hlist
      obtain ⟨leaves, hleaves, heq⟩ := exists_enumerates value path list hlist
      exact ⟨leaves, ⟨fun leaf => (hleaves.mem_iff leaf).trans leafAt_tagged_iff.symm,
        hleaves.ascending⟩, heq⟩
  | .null, path, list, hlist | .bool _, path, list, hlist | .number _, path, list, hlist
  | .string _, path, list, hlist | .sequence _, path, list, hlist => by
      rw [leaves_plain (by simp) (by simp)] at hlist
      exact ⟨_, .leaf (.plain (by simp) (by simp) (hasText_leafText _)), (Except.ok.inj hlist).symm⟩

theorem exists_enumeratesFrom : ∀ (entries : List (Yaml × Yaml)) (start : Nat)
    (path : Option String) (list : List (String × String)),
    leavesOfEntries path entries = .ok list →
      ∃ leaves, branching.EnumeratesFrom start (named entries) leaves ∧
        (∀ entry ∈ entries, ∃ name, entry.1.Names name) ∧ list = leaves.filterMap (·.keyed? path)
  | [], start, path, list, hlist => ⟨[], .nil start, by simp, (Except.ok.inj hlist).symm⟩
  | (key, value) :: entries, start, path, list, hlist => by
      obtain ⟨name, firstList, otherList, hname, hfirst, hothers, rfl⟩ :=
        exists_of_leavesOfEntries_cons hlist
      obtain ⟨first, hfirstLeaves, rfl⟩ := exists_enumerates value _ _ hfirst
      obtain ⟨others, hotherLeaves, hnamed, rfl⟩ :=
        exists_enumeratesFrom entries (start + 1) path _ hothers
      have hnamedCons : named ((key, value) :: entries) = (name, value) :: named entries := by
        rw [named, List.map_cons, names_iff.mp hname]
        rfl
      rw [hnamedCons]
      refine ⟨_, .cons hfirstLeaves hotherLeaves,
        List.forall_mem_cons.mpr ⟨⟨name, hname⟩, hnamed⟩, ?_⟩
      rw [List.filterMap_append, List.filterMap_map]
      rfl

end

/-- No key of a mapping that is reached has a dot in its text. -/
def Dotless (value : Yaml) : Prop :=
  ∀ entries key child name, value.Reaches (.mapping entries) → (key, child) ∈ entries →
    key.Names name → '.' ∉ name.toList

/-- No mapping that is reached has two keys of one text. -/
def Distinct (value : Yaml) : Prop :=
  ∀ entries, value.Reaches (.mapping entries) →
    entries.Pairwise fun first second => ∀ name, first.1.Names name → ¬ second.1.Names name

/-- A child stands under a key of a mapping that is reached through tags. -/
theorem HasChild.exists_mapping {value child : Yaml} {place : Nat} {name : String}
    (hchild : value.HasChild place name child) : ∃ entries key,
      value.Reaches (.mapping entries) ∧ entries[place]? = some (key, child) ∧ key.Names name := by
  induction hchild with
  | entry hentry hname => exact ⟨_, _, .refl _, hentry, hname⟩
  | tagged _ ih =>
      obtain ⟨entries, key, hreaches, hentry, hname⟩ := ih
      exact ⟨entries, key, .tagged hreaches, hentry, hname⟩

theorem HasChild.reaches {value child node : Yaml} {place : Nat} {name : String}
    (hchild : value.HasChild place name child) (hnode : child.Reaches node) :
    value.Reaches node := by
  induction hchild with
  | entry hentry => exact .entry (List.mem_of_getElem? hentry) hnode
  | tagged _ ih => exact .tagged (ih hnode)

theorem dotless_of_leafAt {value : Yaml} {places : List Nat} {keys : List String} {text : String}
    (hvalue : value.Dotless) (hleaf : branching.LeafAt value places keys text) :
    ∀ key ∈ keys, '.' ∉ key.toList := by
  induction hleaf with
  | here => simp
  | @child value child text name place places keys hchild _ ih =>
      have hchild : value.HasChild place name child := hchild
      obtain ⟨entries, key, hreaches, hentry, hname⟩ := hchild.exists_mapping
      refine List.forall_mem_cons.mpr
        ⟨hvalue entries key child name hreaches (List.mem_of_getElem? hentry) hname, ih ?_⟩
      exact fun inner other next given hinner =>
        hvalue inner other next given (hchild.reaches hinner)

theorem distinct_of_child {value child : Yaml} {place : Nat} {name : String}
    (hvalue : value.Distinct) (hchild : branching.Child value place name child) :
    child.Distinct :=
  fun entries hreaches => hvalue entries (HasChild.reaches hchild hreaches)

theorem HasChild.place_eq {value child next : Yaml} {place other : Nat} {name : String}
    (hvalue : value.Distinct) (hchild : value.HasChild place name child)
    (hnext : value.HasChild other name next) : place = other := by
  induction hchild with
  | @entry entries place key child name hentry hname =>
      cases hnext with
      | entry hother hotherName =>
          have hdistinct := List.pairwise_iff_getElem.mp (hvalue entries (.refl _))
          obtain ⟨hplace, hentry⟩ := List.getElem?_eq_some_iff.mp hentry
          obtain ⟨hotherPlace, hother⟩ := List.getElem?_eq_some_iff.mp hother
          rcases Nat.lt_trichotomy place other with hlt | heq | hlt
          · have hdiffers := hdistinct place other hplace hotherPlace hlt name
            rw [hentry, hother] at hdiffers
            exact absurd hotherName (hdiffers hname)
          · exact heq
          · have hdiffers := hdistinct other place hotherPlace hplace hlt name
            rw [hentry, hother] at hdiffers
            exact absurd hname (hdiffers hotherName)
  | tagged _ ih =>
      cases hnext with
      | tagged hnext => exact ih (fun entries hreaches => hvalue entries (.tagged hreaches)) hnext

theorem ofYaml_error_iff {value : Yaml} :
    (∃ error, PropertySet.ofYaml value = .error error) ↔ value.HasBadKey := by
  rw [← leaves_error_iff value none, PropertySet.ofYaml]
  cases value.leaves none <;> simp [Except.map]

theorem exists_leaves_of_ofYaml {value : Yaml} {properties : PropertySet}
    (hproperties : PropertySet.ofYaml value = .ok properties) :
    ∃ leaves, branching.Enumerates value leaves ∧
      properties = Table.ofList (leaves.filterMap (·.keyed? none)) := by
  rw [PropertySet.ofYaml] at hproperties
  cases hlist : value.leaves none with
  | error error =>
      rw [hlist] at hproperties
      cases hproperties
  | ok list =>
      rw [hlist] at hproperties
      obtain ⟨leaves, hleaves, rfl⟩ := exists_enumerates value none list hlist
      exact ⟨leaves, hleaves, (Except.ok.inj hproperties).symm⟩

theorem get?_ofYaml_iff {value : Yaml} {properties : PropertySet}
    (hproperties : PropertySet.ofYaml value = .ok properties) {key text : String} :
    properties.get? key = some text ↔ branching.LastLeaf value key text := by
  obtain ⟨leaves, hleaves, rfl⟩ := exists_leaves_of_ofYaml hproperties
  exact hleaves.get?_iff

theorem leafCount_ofYaml {value : Yaml} {properties : PropertySet}
    (hproperties : PropertySet.ofYaml value = .ok properties) (hdotless : value.Dotless)
    (hdistinct : value.Distinct) : branching.LeafCount value properties.size := by
  obtain ⟨leaves, hleaves, rfl⟩ := exists_leaves_of_ofYaml hproperties
  exact hleaves.leafCount (dotless_of_leafAt hdotless)
    (Branching.LeafAt.places_eq distinct_of_child HasChild.place_eq hdistinct)

end Yaml

end MemberDiscovery
