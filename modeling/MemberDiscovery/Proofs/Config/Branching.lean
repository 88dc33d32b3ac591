import MemberDiscovery.Config.Leaves

/-! # Leaves and the paths to them

What a tree is made of may differ, but it has leaves, and each of them is reached by the places at
which it stands and by the keys that it stands under. Flattening goes through the leaves depth first
and joins the keys to each with dots. Main statements: what a key stands for is the text of the last
leaf with that key (`Enumerates.get?_iff`), and no leaf is lost if no key has a dot in it and keys
tell leaves apart (`Enumerates.leafCount`).
-/

namespace MemberDiscovery

/-- How the values of a type make trees. -/
structure Branching (V : Type) where
  /-- The value is a leaf with a text. -/
  Leaf : V → String → Prop
  /-- Under a key, at a place of the first value, stands the second one. -/
  Child : V → Nat → String → V → Prop
  leaf_unique : ∀ {value text other}, Leaf value text → Leaf value other → text = other
  not_child : ∀ {value text place key child}, Leaf value text → ¬ Child value place key child
  child_unique : ∀ {value place key child other next}, Child value place key child →
    Child value place other next → key = other ∧ child = next

namespace Branching

variable {V : Type}

/-- The texts of the leaves of a value, with the places and the keys on the way to them. -/
inductive LeafAt (branching : Branching V) : V → List Nat → List String → String → Prop where
  | here {value : V} {text : String} (hleaf : branching.Leaf value text) :
      LeafAt branching value [] [] text
  | child {value child : V} {text key : String} {place : Nat} {places : List Nat}
      {keys : List String} (hchild : branching.Child value place key child)
      (hrest : LeafAt branching child places keys text) :
      LeafAt branching value (place :: places) (key :: keys) text

/-- Of the leaves with the joined key, the last one in the order of places has the text. -/
def LastLeaf (branching : Branching V) (value : V) (key text : String) : Prop :=
  ∃ places keys, branching.LeafAt value places keys text ∧ keys ≠ [] ∧
    String.intercalate "." keys = key ∧
      ∀ others laters later, branching.LeafAt value others laters later → laters ≠ [] →
        String.intercalate "." laters = key → ¬ places < others

/-- So many leaves are reached through at least one key. -/
def LeafCount (branching : Branching V) (value : V) (count : Nat) : Prop :=
  ∃ reached : List (List Nat), reached.Nodup ∧
    (∀ places, places ∈ reached ↔
      places ≠ [] ∧ ∃ keys text, branching.LeafAt value places keys text) ∧ reached.length = count

variable {branching : Branching V}

namespace LeafAt

/-- There is one leaf at each place. -/
theorem unique {value : V} {text other : String} {places : List Nat} {keys others : List String}
    (hleaf : branching.LeafAt value places keys text)
    (hother : branching.LeafAt value places others other) : keys = others ∧ text = other := by
  induction hleaf generalizing others with
  | here hleaf =>
      cases hother with
      | here hnext => exact ⟨rfl, branching.leaf_unique hleaf hnext⟩
  | child hchild _ ih =>
      cases hother with
      | child hnext hrest =>
          obtain ⟨rfl, rfl⟩ := branching.child_unique hchild hnext
          obtain ⟨rfl, rfl⟩ := ih hrest
          exact ⟨rfl, rfl⟩

theorem keys_eq_nil_iff {value : V} {text : String} {places : List Nat} {keys : List String}
    (hleaf : branching.LeafAt value places keys text) : keys = [] ↔ places = [] := by
  cases hleaf <;> simp

section Invariants

-- What holds of a value and passes to its children.
variable {P : V → Prop}
  (hclosed : ∀ {value place key child}, P value → branching.Child value place key child → P child)
  {value : V} {text other : String} {places others : List Nat} {keys laters : List String}

include hclosed

/-- The keys to a leaf are its address where no two children stand under one key. -/
theorem places_eq
    (hdistinct : ∀ {value place other key child next}, P value →
      branching.Child value place key child → branching.Child value other key next → place = other)
    (hvalue : P value) (hleaf : branching.LeafAt value places keys text)
    (hother : branching.LeafAt value others keys other) : places = others := by
  induction hleaf generalizing others with
  | here =>
      cases hother
      rfl
  | child hchild _ ih =>
      cases hother with
      | child hnext hrest =>
          obtain rfl := hdistinct hvalue hchild hnext
          obtain ⟨-, rfl⟩ := branching.child_unique hchild hnext
          rw [ih (hclosed hvalue hchild) hrest]

variable (hascends : ∀ {value place other key later child next}, P value →
  branching.Child value place key child → branching.Child value other later next →
    place < other → key < later)

include hascends

/-- Where keys ascend with the places they are at, so do the keys to leaves. -/
theorem keys_lt (hvalue : P value) (hleaf : branching.LeafAt value places keys text)
    (hother : branching.LeafAt value others laters other) (hlt : places < others) :
    keys < laters := by
  induction hleaf generalizing others laters with
  | here hleaf =>
      cases hother with
      | here => exact absurd hlt (List.lt_irrefl _)
      | child hchild => exact absurd hchild (branching.not_child hleaf)
  | child hchild _ ih =>
      cases hother with
      | here => exact absurd hlt (List.not_lt_nil _)
      | child hnext hrest =>
          rw [List.cons_lt_cons_iff] at hlt ⊢
          rcases hlt with hplace | ⟨rfl, hlt⟩
          · exact .inl (hascends hvalue hchild hnext hplace)
          · obtain ⟨rfl, rfl⟩ := branching.child_unique hchild hnext
            exact .inr ⟨rfl, ih (hclosed hvalue hchild) hrest hlt⟩

/-- Where keys ascend with the places they are at, leaves are in the order of their keys. -/
theorem places_lt_iff (hvalue : P value) (hleaf : branching.LeafAt value places keys text)
    (hother : branching.LeafAt value others laters other) : places < others ↔ keys < laters := by
  refine ⟨keys_lt hclosed hascends hvalue hleaf hother, fun hlt => ?_⟩
  by_cases hless : places < others
  · exact hless
  · rcases List.le_iff_lt_or_eq.mp (List.not_lt.mp hless) with hgreater | rfl
    · exact absurd (keys_lt hclosed hascends hvalue hother hleaf hgreater) (List.lt_asymm hlt)
    · exact absurd ((hleaf.unique hother).1 ▸ hlt) (List.lt_irrefl _)

end Invariants

end LeafAt

/-! ## Leaves by the keys to them -/

/-- The keys lead to a leaf with the text. -/
def LeafUnder (branching : Branching V) (value : V) (keys : List String) (text : String) : Prop :=
  ∃ places, branching.LeafAt value places keys text

theorem leafUnder_nil_iff {value : V} {text : String} :
    branching.LeafUnder value [] text ↔ branching.Leaf value text := by
  constructor
  · rintro ⟨places, hleaf⟩
    cases hleaf with
    | here hleaf => exact hleaf
  · exact fun hleaf => ⟨[], .here hleaf⟩

theorem leafUnder_cons_iff {value : V} {key text : String} {keys : List String} :
    branching.LeafUnder value (key :: keys) text ↔
      ∃ child, (∃ place, branching.Child value place key child) ∧
        branching.LeafUnder child keys text := by
  constructor
  · rintro ⟨places, hleaf⟩
    cases hleaf with
    | child hchild hrest => exact ⟨_, ⟨_, hchild⟩, _, hrest⟩
  · rintro ⟨child, ⟨place, hchild⟩, places, hrest⟩
    exact ⟨place :: places, .child hchild hrest⟩

/-- Of the leaves with the joined key, the one that stands under the greatest keys has the text. -/
def GreatestLeaf (branching : Branching V) (value : V) (key text : String) : Prop :=
  ∃ keys, branching.LeafUnder value keys text ∧ keys ≠ [] ∧ String.intercalate "." keys = key ∧
    ∀ laters later, branching.LeafUnder value laters later → laters ≠ [] →
      String.intercalate "." laters = key → ¬ keys < laters

/-- Where leaves come in the order of their keys, the last one stands under the greatest keys. -/
theorem lastLeaf_iff_greatestLeaf {value : V}
    (horder : ∀ {places others keys laters text later}, branching.LeafAt value places keys text →
      branching.LeafAt value others laters later → (places < others ↔ keys < laters))
    {key text : String} :
    branching.LastLeaf value key text ↔ branching.GreatestLeaf value key text := by
  constructor
  · rintro ⟨places, keys, hleaf, hne, hkey, hlast⟩
    refine ⟨keys, ⟨places, hleaf⟩, hne, hkey, ?_⟩
    rintro laters later ⟨others, hlater⟩ hlaters hlaterKey
    rw [← horder hleaf hlater]
    exact hlast others laters later hlater hlaters hlaterKey
  · rintro ⟨keys, ⟨places, hleaf⟩, hne, hkey, hgreatest⟩
    refine ⟨places, keys, hleaf, hne, hkey, ?_⟩
    intro others laters later hlater hlaters hlaterKey
    rw [horder hleaf hlater]
    exact hgreatest laters later ⟨others, hlater⟩ hlaters hlaterKey

/-! ## Texts of items -/

/-- Texts are found item by item. -/
theorem eq_map_of_getElem? {items : List V} {texts : List String} {textOf : V → String}
    (hlength : texts.length = items.length)
    (htexts : ∀ (index : Nat) item text, items[index]? = some item →
      texts[index]? = some text → text = textOf item) : texts = items.map textOf := by
  refine List.ext_getElem (by simpa using hlength) fun index htext hitem => ?_
  rw [List.length_map] at hitem
  rw [List.getElem_map]
  exact htexts index _ _ (List.getElem?_eq_getElem hitem) (List.getElem?_eq_getElem htext)

/-! ## Entries that are children -/

theorem key_lt_of_getElem? {entries : List (String × V)}
    (hascending : entries.Pairwise fun first second => first.1 < second.1) {place other : Nat}
    {key later : String} {child next : V} (hentry : entries[place]? = some (key, child))
    (hother : entries[other]? = some (later, next)) (hlt : place < other) : key < later := by
  obtain ⟨hplace, hentry⟩ := List.getElem?_eq_some_iff.mp hentry
  obtain ⟨hotherPlace, hother⟩ := List.getElem?_eq_some_iff.mp hother
  have hpair := List.pairwise_iff_getElem.mp hascending place other hplace hotherPlace hlt
  rwa [hentry, hother] at hpair

/-- A key stands at one place where keys differ. -/
theorem place_eq_of_getElem? {entries : List (String × V)}
    (hdistinct : entries.Pairwise fun first second => first.1 ≠ second.1) {place other : Nat}
    {key : String} {child next : V} (hentry : entries[place]? = some (key, child))
    (hother : entries[other]? = some (key, next)) : place = other := by
  obtain ⟨hplace, hentry⟩ := List.getElem?_eq_some_iff.mp hentry
  obtain ⟨hotherPlace, hother⟩ := List.getElem?_eq_some_iff.mp hother
  have hpair := List.pairwise_iff_getElem.mp hdistinct
  rcases Nat.lt_trichotomy place other with hlt | heq | hlt
  · exact absurd (by rw [hentry, hother]) (hpair place other hplace hotherPlace hlt)
  · exact heq
  · exact absurd (by rw [hentry, hother]) (hpair other place hotherPlace hplace hlt)

/-! ## Keys joined with dots -/

/-- The key of what stands below a path, if there is any path to it. -/
def joinKeys (path : Option String) (keys : List String) : Option String :=
  keys.foldl (fun path key => some (PropertySet.joinKey path key)) path

theorem joinKeys_some (path : String) (keys : List String) :
    joinKeys (some path) keys = some (String.intercalate "." (path :: keys)) := by
  induction keys generalizing path with
  | nil => rw [String.intercalate_singleton]; rfl
  | cons key keys ih =>
      have hstep : joinKeys (some path) (key :: keys) =
          joinKeys (some (path ++ "." ++ key)) keys := rfl
      rw [hstep, ih, String.intercalate_cons_append, String.intercalate_cons_cons]

theorem joinKeys_none_iff {keys : List String} {key : String} :
    joinKeys none keys = some key ↔ keys ≠ [] ∧ String.intercalate "." keys = key := by
  cases keys with
  | nil => simp [joinKeys]
  | cons first keys =>
      have hstep : joinKeys none (first :: keys) = joinKeys (some first) keys := rfl
      rw [hstep, joinKeys_some]
      simp

/-- Keys without dots can be told from their join. -/
theorem join_injective {keys others : List String} (hkeys : keys ≠ []) (hothers : others ≠ [])
    (hplain : ∀ key ∈ keys, '.' ∉ key.toList) (hotherPlain : ∀ key ∈ others, '.' ∉ key.toList)
    (heq : String.intercalate "." keys = String.intercalate "." others) : keys = others := by
  have hsplit := String.toList_split_intercalate hplain
  have hotherSplit := String.toList_split_intercalate hotherPlain
  have hdot : String.singleton '.' = "." := rfl
  rw [if_neg hkeys, hdot, heq, ← hdot, hotherSplit, if_neg hothers] at hsplit
  exact hsplit.symm

/-! ## Leaves one after the other -/

/-- A leaf as it is listed. -/
structure Listed where
  places : List Nat
  keys : List String
  text : String

namespace Listed

/-- The same leaf as part of a greater value. -/
def under (place : Nat) (key : String) (leaf : Listed) : Listed :=
  ⟨place :: leaf.places, key :: leaf.keys, leaf.text⟩

/-- What the leaf is flattened to below a path. -/
def keyed? (path : Option String) (leaf : Listed) : Option (String × String) :=
  (joinKeys path leaf.keys).map fun key => (key, leaf.text)

theorem keyed?_none_iff {leaf : Listed} {key text : String} :
    leaf.keyed? none = some (key, text) ↔
      leaf.keys ≠ [] ∧ String.intercalate "." leaf.keys = key ∧ leaf.text = text := by
  rw [keyed?, Option.map_eq_some_iff]
  simp only [joinKeys_none_iff, Prod.mk.injEq]
  constructor
  · rintro ⟨_, ⟨hne, rfl⟩, rfl, rfl⟩
    exact ⟨hne, rfl, rfl⟩
  · rintro ⟨hne, rfl, rfl⟩
    exact ⟨_, ⟨hne, rfl⟩, rfl, rfl⟩

theorem isSome_keyed?_none_iff {leaf : Listed} :
    (leaf.keyed? none).isSome = true ↔ leaf.keys ≠ [] := by
  rw [Option.isSome_iff_exists]
  constructor
  · rintro ⟨⟨key, text⟩, hentry⟩
    exact (keyed?_none_iff.mp hentry).1
  · exact fun hne => ⟨_, keyed?_none_iff.mpr ⟨hne, rfl, rfl⟩⟩

end Listed

/-- The leaves of a value, all of them and each once, in the order of their places. -/
structure Enumerates (branching : Branching V) (value : V) (leaves : List Listed) : Prop where
  mem_iff : ∀ leaf, leaf ∈ leaves ↔ branching.LeafAt value leaf.places leaf.keys leaf.text
  ascending : leaves.Pairwise fun first second => first.places < second.places

/-- The leaf is one of values that stand one after the other from a place on. -/
def LeafAmong (branching : Branching V) (start : Nat) (children : List (String × V))
    (leaf : Listed) : Prop :=
  ∃ offset key child, ∃ inner : Listed, children[offset]? = some (key, child) ∧
    branching.LeafAt child inner.places inner.keys inner.text ∧
      leaf = inner.under (start + offset) key

/-- The leaves of values that stand one after the other from a place on. -/
structure EnumeratesFrom (branching : Branching V) (start : Nat) (children : List (String × V))
    (leaves : List Listed) : Prop where
  mem_iff : ∀ leaf, leaf ∈ leaves ↔ branching.LeafAmong start children leaf
  ascending : leaves.Pairwise fun first second => first.places < second.places

theorem Enumerates.leaf {value : V} {text : String} (hleaf : branching.Leaf value text) :
    branching.Enumerates value [⟨[], [], text⟩] where
  mem_iff leaf := by
    rw [List.mem_singleton]
    constructor
    · rintro rfl
      exact .here hleaf
    · obtain ⟨places, keys, other⟩ := leaf
      rintro (hnext | ⟨hchild, -⟩)
      · rw [branching.leaf_unique hleaf hnext]
      · exact absurd hchild (branching.not_child hleaf)
  ascending := List.pairwise_singleton _ _

theorem EnumeratesFrom.nil (start : Nat) : branching.EnumeratesFrom start [] [] where
  mem_iff leaf := by simp [LeafAmong]
  ascending := .nil

theorem EnumeratesFrom.cons {start : Nat} {key : String} {child : V}
    {children : List (String × V)} {first others : List Listed}
    (hfirst : branching.Enumerates child first)
    (hothers : branching.EnumeratesFrom (start + 1) children others) :
    branching.EnumeratesFrom start ((key, child) :: children)
      (first.map (·.under start key) ++ others) where
  mem_iff leaf := by
    rw [List.mem_append, List.mem_map, hothers.mem_iff]
    constructor
    · rintro (⟨inner, hinner, rfl⟩ | ⟨offset, other, next, inner, hnext, hinner, rfl⟩)
      · exact ⟨0, key, child, inner, rfl, (hfirst.mem_iff inner).mp hinner, rfl⟩
      · exact ⟨offset + 1, other, next, inner, hnext, hinner, by rw [Nat.add_right_comm]; rfl⟩
    · rintro ⟨offset, other, next, inner, hnext, hinner, rfl⟩
      cases offset with
      | zero =>
          obtain ⟨rfl, rfl⟩ : key = other ∧ child = next := by simpa using hnext
          exact .inl ⟨inner, (hfirst.mem_iff inner).mpr hinner, rfl⟩
      | succ offset =>
          exact .inr ⟨offset, other, next, inner, hnext, hinner, by rw [Nat.add_right_comm]; rfl⟩
  ascending := by
    rw [List.pairwise_append]
    refine ⟨?_, hothers.ascending, ?_⟩
    · refine List.pairwise_map.mpr (hfirst.ascending.imp fun hlt => ?_)
      exact List.cons_lt_cons_iff.mpr (.inr ⟨rfl, hlt⟩)
    · intro leaf hleaf later hlater
      obtain ⟨inner, -, rfl⟩ := List.mem_map.mp hleaf
      obtain ⟨offset, other, next, _, -, -, rfl⟩ := (hothers.mem_iff later).mp hlater
      exact List.cons_lt_cons_iff.mpr (.inl (by omega))

theorem EnumeratesFrom.enumerates {value : V} {children : List (String × V)}
    {leaves : List Listed} (hleaves : branching.EnumeratesFrom 0 children leaves)
    (hinner : ∀ text, ¬ branching.Leaf value text)
    (hchildren : ∀ place key child,
      branching.Child value place key child ↔ children[place]? = some (key, child)) :
    branching.Enumerates value leaves where
  mem_iff leaf := by
    rw [hleaves.mem_iff]
    constructor
    · rintro ⟨offset, key, child, inner, hchild, hinner, rfl⟩
      rw [Nat.zero_add]
      exact .child ((hchildren offset key child).mpr hchild) hinner
    · obtain ⟨places, keys, text⟩ := leaf
      intro hleaf
      cases hleaf with
      | here hleaf => exact absurd hleaf (hinner text)
      | @child _ child _ key place places keys hchild hrest =>
          exact ⟨place, key, child, ⟨places, keys, text⟩, (hchildren place key child).mp hchild,
            hrest, by rw [Nat.zero_add]; rfl⟩
  ascending := hleaves.ascending

/-- A key stands for the text of the last leaf with that key. -/
theorem Enumerates.get?_iff {value : V} {leaves : List Listed}
    (hleaves : branching.Enumerates value leaves) {key text : String} :
    (Table.ofList (leaves.filterMap (·.keyed? none))).get? key = some text ↔
      branching.LastLeaf value key text := by
  rw [Table.get?_ofList_iff]
  constructor
  · rintro ⟨before, after, heq, hafter⟩
    obtain ⟨front, rest, rfl, -, hrest⟩ := List.filterMap_eq_append_iff.mp heq
    obtain ⟨skipped, leaf, back, rfl, -, hleaf, rfl⟩ := List.filterMap_eq_cons_iff.mp hrest
    obtain ⟨hne, hkey, rfl⟩ := Listed.keyed?_none_iff.mp hleaf
    rw [← List.append_assoc] at hleaves
    have hmem := (hleaves.mem_iff leaf).mp (by simp)
    refine ⟨leaf.places, leaf.keys, hmem, hne, hkey, ?_⟩
    intro others laters later hlater hlaters hlaterKey
    rcases List.mem_append.mp ((hleaves.mem_iff ⟨others, laters, later⟩).mpr hlater) with
      hbefore | hafterwards
    · obtain ⟨-, -, hcross⟩ := List.pairwise_append.mp hleaves.ascending
      exact List.lt_asymm (hcross _ hbefore leaf List.mem_cons_self)
    · rcases List.mem_cons.mp hafterwards with rfl | hback
      · exact List.lt_irrefl _
      · have hentry : (key, later) ∈ back.filterMap (·.keyed? none) :=
          List.mem_filterMap.mpr ⟨_, hback, Listed.keyed?_none_iff.mpr ⟨hlaters, hlaterKey, rfl⟩⟩
        exact absurd rfl (hafter _ hentry)
  · rintro ⟨places, keys, hleaf, hne, hkey, hlast⟩
    have hmem := (hleaves.mem_iff ⟨places, keys, text⟩).mpr hleaf
    obtain ⟨front, back, rfl⟩ := List.append_of_mem hmem
    refine ⟨front.filterMap (·.keyed? none), back.filterMap (·.keyed? none), ?_, ?_⟩
    · have hentry : (⟨places, keys, text⟩ : Listed).keyed? none = some (key, text) :=
        Listed.keyed?_none_iff.mpr ⟨hne, hkey, rfl⟩
      rw [List.filterMap_append, List.filterMap_cons_some hentry]
    · rintro entry hentry rfl
      obtain ⟨later, hback, hlater⟩ := List.mem_filterMap.mp hentry
      obtain ⟨hlaters, hlaterKey, -⟩ := Listed.keyed?_none_iff.mp hlater
      obtain ⟨-, hrest, -⟩ := List.pairwise_append.mp hleaves.ascending
      have hlt := (List.pairwise_cons.mp hrest).1 later hback
      have hmem := (hleaves.mem_iff later).mp (by simp [hback])
      exact hlast _ _ _ hmem hlaters hlaterKey hlt

/-- A key is bound if and only if it is the join of the keys to some leaf. -/
theorem Enumerates.contains_iff {value : V} {leaves : List Listed}
    (hleaves : branching.Enumerates value leaves) {key : String} :
    (Table.ofList (leaves.filterMap (·.keyed? none))).contains key = true ↔
      ∃ keys text, branching.LeafUnder value keys text ∧ keys ≠ [] ∧
        String.intercalate "." keys = key := by
  rw [Table.contains_ofList_iff]
  constructor
  · rintro ⟨text, hentry⟩
    obtain ⟨leaf, hmem, hleaf⟩ := List.mem_filterMap.mp hentry
    obtain ⟨hne, hkey, -⟩ := Listed.keyed?_none_iff.mp hleaf
    exact ⟨leaf.keys, leaf.text, ⟨leaf.places, (hleaves.mem_iff leaf).mp hmem⟩, hne, hkey⟩
  · rintro ⟨keys, text, ⟨places, hleaf⟩, hne, hkey⟩
    refine ⟨text, List.mem_filterMap.mpr ⟨⟨places, keys, text⟩, (hleaves.mem_iff _).mpr hleaf, ?_⟩⟩
    exact Listed.keyed?_none_iff.mpr ⟨hne, hkey, rfl⟩

/-- No leaf is lost if keys tell leaves apart and have no dots in them. -/
theorem Enumerates.leafCount {value : V} {leaves : List Listed}
    (hleaves : branching.Enumerates value leaves)
    (hplain : ∀ {places keys text}, branching.LeafAt value places keys text →
      ∀ key ∈ keys, '.' ∉ key.toList)
    (hdistinct : ∀ {places others keys text other}, branching.LeafAt value places keys text →
      branching.LeafAt value others keys other → places = others) :
    branching.LeafCount value (Table.ofList (leaves.filterMap (·.keyed? none))).size := by
  refine ⟨(leaves.filter fun leaf => leaf.keys ≠ []).map (·.places), ?_, ?_, ?_⟩
  · refine List.pairwise_map.mpr ((hleaves.ascending.filter _).imp ?_)
    intro first second hlt heq
    exact List.lt_irrefl _ (heq ▸ hlt)
  · intro places
    simp only [List.mem_map, List.mem_filter, hleaves.mem_iff, decide_eq_true_eq]
    constructor
    · rintro ⟨leaf, ⟨hleaf, hne⟩, rfl⟩
      exact ⟨mt hleaf.keys_eq_nil_iff.mpr hne, leaf.keys, leaf.text, hleaf⟩
    · rintro ⟨hne, keys, text, hleaf⟩
      exact ⟨⟨places, keys, text⟩, ⟨hleaf, mt hleaf.keys_eq_nil_iff.mp hne⟩, rfl⟩
  · have hkeys : (leaves.filterMap (·.keyed? none)).Pairwise fun first second =>
        first.1 ≠ second.1 := by
      refine List.pairwise_filterMap.mpr (hleaves.ascending.imp_of_mem ?_)
      intro first second hfirst hsecond hlt entry hentry other hother heq
      have hfirst := (hleaves.mem_iff first).mp hfirst
      have hsecond := (hleaves.mem_iff second).mp hsecond
      obtain ⟨hne, hkey, -⟩ := Listed.keyed?_none_iff.mp hentry
      obtain ⟨hotherNe, hotherKey, -⟩ := Listed.keyed?_none_iff.mp hother
      have hsame : first.keys = second.keys :=
        join_injective hne hotherNe (hplain hfirst) (hplain hsecond)
          (hkey.trans (heq.trans hotherKey.symm))
      rw [← hsame] at hsecond
      exact List.lt_irrefl _ (hdistinct hfirst hsecond ▸ hlt)
    calc ((leaves.filter fun leaf => leaf.keys ≠ []).map (·.places)).length
        = leaves.countP fun leaf => leaf.keys ≠ [] := by
          rw [List.length_map, List.countP_eq_length_filter]
      _ = (leaves.filterMap (·.keyed? none)).length := by
          rw [List.length_filterMap_eq_countP]
          exact List.countP_congr fun leaf _ => by simpa using Listed.isSome_keyed?_none_iff.symm
      _ = (Table.ofList (leaves.filterMap (·.keyed? none))).size :=
          (Table.entries_ofList_perm hkeys).length_eq.symm

end Branching

end MemberDiscovery
