/-! # Tables keyed by text

A `Table` maps texts to values and lists its entries in ascending key order, which is the order of
code points and therefore also of the UTF-8 bytes. The order is part of the type, so two tables with
the same answers are equal (`Table.ext_get?`). The lemmas beside each operation say what it does to
`get?`.
-/

namespace MemberDiscovery

/-- A finite map from texts to values, with its entries in ascending key order. -/
structure Table (α : Type u) where
  /-- The entries, one for each key. -/
  entries : List (String × α)
  /-- Keys ascend strictly, so no key occurs twice. -/
  ascending : entries.Pairwise fun a b => a.1 < b.1

namespace Table

variable {α : Type u} {β : Type v}

instance [DecidableEq α] : DecidableEq (Table α) := fun a b =>
  if h : a.entries = b.entries then
    isTrue (by cases a; cases b; cases h; rfl)
  else
    isFalse fun heq => h (heq ▸ rfl)

instance [Repr α] : Repr (Table α) := ⟨fun t prec => reprPrec t.entries prec⟩

def empty : Table α := ⟨[], List.Pairwise.nil⟩

instance : EmptyCollection (Table α) := ⟨empty⟩

instance : Inhabited (Table α) := ⟨empty⟩

/-- Puts an entry at its place in an ascending list, replacing the entry with the same key. -/
def insertEntry (key : String) (value : α) : List (String × α) → List (String × α)
  | [] => [(key, value)]
  | entry :: rest =>
    if key < entry.1 then (key, value) :: entry :: rest
    else if key = entry.1 then (key, value) :: rest
    else entry :: insertEntry key value rest

theorem mem_insertEntry {key : String} {value : α} {entries : List (String × α)}
    {entry : String × α} (hmem : entry ∈ insertEntry key value entries) :
    entry = (key, value) ∨ entry ∈ entries := by
  induction entries with
  | nil => simpa [insertEntry] using hmem
  | cons head rest ih =>
    simp only [insertEntry] at hmem
    split at hmem
    · simpa using hmem
    · split at hmem
      · rcases List.mem_cons.mp hmem with h | h
        · exact Or.inl h
        · exact Or.inr (List.mem_cons_of_mem _ h)
      · rcases List.mem_cons.mp hmem with h | h
        · exact Or.inr (h ▸ List.mem_cons_self)
        · exact (ih h).imp_right (List.mem_cons_of_mem _)

theorem insertEntry_ascending (key : String) (value : α) {entries : List (String × α)}
    (hentries : entries.Pairwise fun a b => a.1 < b.1) :
    (insertEntry key value entries).Pairwise fun a b => a.1 < b.1 := by
  induction entries with
  | nil => simp [insertEntry]
  | cons head rest ih =>
    obtain ⟨hhead, hrest⟩ := List.pairwise_cons.mp hentries
    simp only [insertEntry]
    split
    next hlt =>
      refine List.pairwise_cons.mpr ⟨fun entry hmem => ?_, hentries⟩
      rcases List.mem_cons.mp hmem with rfl | hmem
      · exact hlt
      · exact String.lt_trans hlt (hhead entry hmem)
    next hnot =>
      split
      next heq =>
        subst heq
        exact List.pairwise_cons.mpr ⟨hhead, hrest⟩
      next hne =>
        refine List.pairwise_cons.mpr ⟨fun entry hmem => ?_, ih hrest⟩
        rcases mem_insertEntry hmem with rfl | hmem
        · have : head.1 < key := by grind
          exact this
        · exact hhead entry hmem

def insert (table : Table α) (key : String) (value : α) : Table α :=
  ⟨insertEntry key value table.entries, insertEntry_ascending key value table.ascending⟩

def erase (table : Table α) (key : String) : Table α :=
  ⟨table.entries.filter (·.1 ≠ key), table.ascending.sublist List.filter_sublist⟩

def get? (table : Table α) (key : String) : Option α :=
  (table.entries.find? (·.1 = key)).map (·.2)

def contains (table : Table α) (key : String) : Bool :=
  (table.get? key).isSome

def keys (table : Table α) : List String :=
  table.entries.map (·.1)

def size (table : Table α) : Nat :=
  table.entries.length

def isEmpty (table : Table α) : Bool :=
  table.entries.isEmpty

/-- Binds the entries one after the other, so of two entries with one key the last stays. -/
def insertAll (table : Table α) (entries : List (String × α)) : Table α :=
  entries.foldl (fun t entry => t.insert entry.1 entry.2) table

/-- The table of a list of entries; of two entries with one key the last stays. -/
def ofList (entries : List (String × α)) : Table α :=
  empty.insertAll entries

def mapValues (f : α → β) (table : Table α) : Table β :=
  ⟨table.entries.map fun entry => (entry.1, f entry.2),
    List.pairwise_map.mpr table.ascending⟩

def filter (p : String → α → Bool) (table : Table α) : Table α :=
  ⟨table.entries.filter fun entry => p entry.1 entry.2, table.ascending.sublist List.filter_sublist⟩

@[simp] theorem get?_empty (key : String) : (∅ : Table α).get? key = none := rfl

theorem find?_insertEntry (key : String) (value : α) {entries : List (String × α)}
    (hentries : entries.Pairwise fun a b => a.1 < b.1) (other : String) :
    (insertEntry key value entries).find? (·.1 = other) =
      if other = key then some (key, value) else entries.find? (·.1 = other) := by
  induction entries with
  | nil => simp [insertEntry, List.find?_cons]; grind
  | cons head rest ih =>
    obtain ⟨hhead, hrest⟩ := List.pairwise_cons.mp hentries
    simp only [insertEntry]
    split
    next hlt =>
      by_cases h : other = key
      · subst h; simp
      · simp [List.find?_cons, h, Ne.symm h]
    next hnot =>
      split
      next heq =>
        by_cases h : other = key
        · subst h; simp
        · have : ¬ head.1 = other := by grind
          simp [h, Ne.symm h, this]
      next hne =>
        by_cases h : head.1 = other
        · have : ¬ other = key := by grind
          simp [h, this]
        · simp [h, ih hrest]

@[simp] theorem get?_insert (table : Table α) (key : String) (value : α) (other : String) :
    (table.insert key value).get? other = if other = key then some value else table.get? other := by
  simp only [get?, insert, find?_insertEntry key value table.ascending]
  split <;> rfl

@[simp] theorem get?_erase (table : Table α) (key other : String) :
    (table.erase key).get? other = if other = key then none else table.get? other := by
  simp only [get?, erase, List.find?_filter]
  by_cases h : other = key
  · subst h
    rw [if_pos rfl, Option.map_eq_none_iff, List.find?_eq_none]
    intro entry _
    simp
  · rw [if_neg h]
    congr 2
    funext entry
    by_cases he : entry.1 = other
    · simp [he, h]
    · simp [he]

theorem mem_entries_iff {table : Table α} {key : String} {value : α} :
    (key, value) ∈ table.entries ↔ table.get? key = some value := by
  obtain ⟨entries, hentries⟩ := table
  induction entries with
  | nil => simp [get?]
  | cons head rest ih =>
    obtain ⟨hhead, hrest⟩ := List.pairwise_cons.mp hentries
    have ih := ih hrest
    simp only [get?] at ih ⊢
    rw [List.find?_cons]
    by_cases h : head.1 = key
    · subst h
      have hnot : (head.1, value) ∉ rest := fun hmem =>
        String.lt_irrefl _ (hhead (head.1, value) hmem)
      simp only [List.mem_cons, decide_true, Option.map_some, Option.some.injEq]
      constructor
      · rintro (heq | hmem)
        · rw [← heq]
        · exact absurd hmem hnot
      · rintro rfl
        exact Or.inl rfl
    · have hne : (key, value) ≠ head := fun heq => h (heq ▸ rfl)
      simp [h, hne, ih]

/-- Ascending lists with the same members are equal. -/
theorem entries_eq_of_mem_iff {left right : List (String × α)}
    (hleft : left.Pairwise fun a b => a.1 < b.1) (hright : right.Pairwise fun a b => a.1 < b.1)
    (hmem : ∀ entry, entry ∈ left ↔ entry ∈ right) : left = right := by
  induction left generalizing right with
  | nil =>
    cases right with
    | nil => rfl
    | cons head rest => exact absurd ((hmem head).mpr List.mem_cons_self) (by simp)
  | cons a as ih =>
    cases right with
    | nil => exact absurd ((hmem a).mp List.mem_cons_self) (by simp)
    | cons b bs =>
      obtain ⟨ha, has⟩ := List.pairwise_cons.mp hleft
      obtain ⟨hb, hbs⟩ := List.pairwise_cons.mp hright
      have hab : a = b := by
        rcases List.mem_cons.mp ((hmem a).mp List.mem_cons_self) with h | h
        · exact h
        · rcases List.mem_cons.mp ((hmem b).mpr List.mem_cons_self) with h' | h'
          · exact h'.symm
          · exact absurd (String.lt_trans (ha b h') (hb a h)) (String.lt_irrefl _)
      subst hab
      congr 1
      refine ih has hbs fun entry => ?_
      have hiff := hmem entry
      simp only [List.mem_cons] at hiff
      constructor
      · intro h
        rcases hiff.mp (Or.inr h) with rfl | h'
        · exact absurd (ha entry h) (String.lt_irrefl _)
        · exact h'
      · intro h
        rcases hiff.mpr (Or.inr h) with rfl | h'
        · exact absurd (hb entry h) (String.lt_irrefl _)
        · exact h'

/-- Tables with the same answers are equal. -/
theorem ext_get? {left right : Table α} (h : ∀ key, left.get? key = right.get? key) :
    left = right := by
  have hentries : left.entries = right.entries := by
    refine entries_eq_of_mem_iff left.ascending right.ascending fun entry => ?_
    rw [show entry = (entry.1, entry.2) from rfl, mem_entries_iff, mem_entries_iff, h]
  cases left
  cases right
  cases hentries
  rfl

/-- Tables with the same keys and one value for each are equal. -/
theorem eq_of_contains {left right : Table α}
    (hkeys : ∀ key, left.contains key = right.contains key)
    (hvalues : ∀ key value other, left.get? key = some value → right.get? key = some other →
      value = other) : left = right := by
  refine ext_get? fun key => ?_
  have hkey := hkeys key
  rw [contains, contains] at hkey
  cases hleft : left.get? key with
  | none =>
    rw [hleft] at hkey
    exact (Option.isNone_iff_eq_none.mp (by simpa using hkey.symm)).symm
  | some value =>
    rw [hleft] at hkey
    obtain ⟨other, hright⟩ := Option.isSome_iff_exists.mp hkey.symm
    rw [hright, hvalues key value other hleft hright]

theorem keys_ascending (table : Table α) : table.keys.Pairwise (· < ·) :=
  List.pairwise_map.mpr table.ascending

theorem mem_keys_iff {table : Table α} {key : String} :
    key ∈ table.keys ↔ table.contains key = true := by
  rw [keys, List.mem_map, contains, Option.isSome_iff_exists]
  constructor
  · rintro ⟨entry, hmem, rfl⟩
    exact ⟨entry.2, mem_entries_iff.mp hmem⟩
  · rintro ⟨value, hvalue⟩
    exact ⟨(key, value), mem_entries_iff.mpr hvalue, rfl⟩

@[simp] theorem get?_mapValues (f : α → β) (table : Table α) (key : String) :
    (table.mapValues f).get? key = (table.get? key).map f := by
  ext value
  rw [← mem_entries_iff, mapValues, List.mem_map, Option.map_eq_some_iff]
  constructor
  · rintro ⟨entry, hmem, heq⟩
    obtain ⟨rfl, rfl⟩ := Prod.mk.inj heq
    exact ⟨entry.2, mem_entries_iff.mp hmem, rfl⟩
  · rintro ⟨value, hvalue, rfl⟩
    exact ⟨(key, value), mem_entries_iff.mpr hvalue, rfl⟩

@[simp] theorem get?_filter (p : String → α → Bool) (table : Table α) (key : String) :
    (table.filter p).get? key = (table.get? key).filter (p key) := by
  ext value
  rw [← mem_entries_iff, filter, List.mem_filter, mem_entries_iff, Option.filter_eq_some_iff]

theorem eq_empty_of_isEmpty {table : Table α} (hempty : table.isEmpty = true) : table = ∅ := by
  obtain ⟨entries, hentries⟩ := table
  obtain rfl : entries = [] := List.isEmpty_iff.mp hempty
  rfl

def toList (table : Table α) : List (String × α) :=
  table.entries

/-- What is selected from the entries if only one key can be selected. -/
theorem filterMap_toList {select : String × α → Option β} {key : String} (table : Table α)
    (hselect : ∀ entry ∈ table.toList, entry.1 ≠ key → select entry = none) :
    table.toList.filterMap select =
      ((table.get? key).bind fun value => select (key, value)).toList := by
  obtain ⟨entries, hentries⟩ := table
  simp only [toList, get?] at hselect ⊢
  induction entries with
  | nil => rfl
  | cons head rest ih =>
    obtain ⟨hhead, hrest⟩ := List.pairwise_cons.mp hentries
    by_cases h : head.1 = key
    · subst h
      have hnone : rest.filterMap select = [] := by
        rw [List.filterMap_eq_nil_iff]
        intro entry hmem
        refine hselect entry (List.mem_cons_of_mem _ hmem) fun heq => ?_
        exact String.lt_irrefl _ (heq ▸ hhead entry hmem)
      rw [List.filterMap_cons, hnone]
      cases hfirst : select head <;> simp [hfirst]
    · rw [List.filterMap_cons, hselect head List.mem_cons_self h]
      simpa [h] using ih hrest fun entry hmem => hselect entry (List.mem_cons_of_mem _ hmem)

theorem get?_insertAll_iff {table : Table α} {entries : List (String × α)}
    (hkeys : entries.Pairwise fun a b => a.1 ≠ b.1)
    (hnew : ∀ entry ∈ entries, table.get? entry.1 = none) {key : String} {value : α} :
    (table.insertAll entries).get? key = some value ↔
      (key, value) ∈ entries ∨ table.get? key = some value := by
  induction entries generalizing table with
  | nil => simp [insertAll]
  | cons head rest ih =>
    obtain ⟨hhead, hrest⟩ := List.pairwise_cons.mp hkeys
    have hinserted : ∀ entry ∈ rest, (table.insert head.1 head.2).get? entry.1 = none := by
      intro entry hmem
      rw [get?_insert, if_neg (hhead entry hmem).symm]
      exact hnew entry (List.mem_cons_of_mem _ hmem)
    have hstep : (table.insertAll (head :: rest)).get? key = some value ↔
        (key, value) ∈ rest ∨ (table.insert head.1 head.2).get? key = some value :=
      ih hrest hinserted
    rw [hstep, get?_insert, List.mem_cons]
    by_cases h : key = head.1
    · subst h
      have hnone := hnew head List.mem_cons_self
      simp [hnone, Prod.ext_iff, eq_comm, or_comm]
    · simp [h, Prod.ext_iff]

/-- A key has the value of the last entry that binds it, or else the value it had before. -/
theorem get?_insertAll_iff_last {table : Table α} {entries : List (String × α)} {key : String}
    {value : α} :
    (table.insertAll entries).get? key = some value ↔
      (∃ before after, entries = before ++ (key, value) :: after ∧ ∀ entry ∈ after, entry.1 ≠ key) ∨
        (∀ entry ∈ entries, entry.1 ≠ key) ∧ table.get? key = some value := by
  induction entries generalizing table with
  | nil => simp [insertAll]
  | cons head rest ih =>
    have hstep : table.insertAll (head :: rest) = (table.insert head.1 head.2).insertAll rest := rfl
    rw [hstep, ih, get?_insert]
    constructor
    · rintro (⟨before, after, rfl, hafter⟩ | ⟨hrest, hvalue⟩)
      · exact .inl ⟨head :: before, after, rfl, hafter⟩
      · by_cases hkey : key = head.1
        · subst hkey
          obtain rfl : head.2 = value := by simpa using hvalue
          exact .inl ⟨[], rest, rfl, hrest⟩
        · rw [if_neg hkey] at hvalue
          exact .inr ⟨List.forall_mem_cons.mpr ⟨Ne.symm hkey, hrest⟩, hvalue⟩
    · rintro (⟨before, after, heq, hafter⟩ | ⟨hentries, hvalue⟩)
      · cases before with
        | nil =>
          obtain ⟨rfl, rfl⟩ := List.cons.inj heq
          exact .inr ⟨hafter, by simp⟩
        | cons first before =>
          obtain ⟨-, rfl⟩ := List.cons.inj heq
          exact .inl ⟨before, after, rfl, hafter⟩
      · obtain ⟨hhead, hrest⟩ := List.forall_mem_cons.mp hentries
        exact .inr ⟨hrest, by rw [if_neg hhead.symm, hvalue]⟩

theorem get?_ofList_iff {entries : List (String × α)} {key : String} {value : α} :
    (ofList entries).get? key = some value ↔
      ∃ before after, entries = before ++ (key, value) :: after ∧
        ∀ entry ∈ after, entry.1 ≠ key := by
  rw [ofList, get?_insertAll_iff_last]
  exact or_iff_left fun hnew => nomatch hnew.2

theorem get?_ofList_iff_mem {entries : List (String × α)}
    (hkeys : entries.Pairwise fun a b => a.1 ≠ b.1) {key : String} {value : α} :
    (ofList entries).get? key = some value ↔ (key, value) ∈ entries := by
  rw [ofList, get?_insertAll_iff hkeys fun _ _ => rfl]
  exact or_iff_left nofun

theorem contains_insertAll_iff {table : Table α} {entries : List (String × α)} {key : String} :
    (table.insertAll entries).contains key = true ↔
      (∃ value, (key, value) ∈ entries) ∨ table.contains key = true := by
  induction entries generalizing table with
  | nil => simp [insertAll]
  | cons head rest ih =>
    have hstep : table.insertAll (head :: rest) = (table.insert head.1 head.2).insertAll rest := rfl
    rw [hstep, ih, contains, get?_insert, contains]
    by_cases h : key = head.1
    · subst h
      simp only [if_pos, Option.isSome_some, or_true, true_iff]
      exact .inl ⟨head.2, List.mem_cons_self⟩
    · simp [h, Prod.ext_iff]

/-- A key is bound if and only if it stands in the list. -/
theorem contains_ofList_iff {entries : List (String × α)} {key : String} :
    (ofList entries).contains key = true ↔ ∃ value, (key, value) ∈ entries := by
  rw [ofList, contains_insertAll_iff]
  exact or_iff_left nofun

/-- The entries of a table make it again, in whatever order they are taken. -/
theorem ofList_of_perm {table : Table α} {order : List (String × α)}
    (horder : order.Perm table.toList) : ofList order = table := by
  have hkeys : order.Pairwise fun a b => a.1 ≠ b.1 := by
    refine (horder.pairwise_iff fun hne => hne.symm).mpr ?_
    refine List.Pairwise.imp ?_ table.ascending
    intro a b hlt heq
    exact String.lt_irrefl _ (heq ▸ hlt)
  refine ext_get? fun key => Option.ext fun value => ?_
  have hnew : ∀ entry ∈ order, (empty : Table α).get? entry.1 = none := fun _ _ => rfl
  rw [ofList, get?_insertAll_iff hkeys hnew, horder.mem_iff, toList, mem_entries_iff]
  exact or_iff_left nofun

/-- Every entry stands in the table of a list in which no key occurs twice. -/
theorem entries_ofList_perm {entries : List (String × α)}
    (hkeys : entries.Pairwise fun a b => a.1 ≠ b.1) : (ofList entries).entries.Perm entries := by
  have hascending : (ofList entries).entries.Pairwise fun a b => a ≠ b := by
    refine List.Pairwise.imp ?_ (ofList entries).ascending
    rintro a b hlt rfl
    exact String.lt_irrefl _ hlt
  have hdistinct : entries.Pairwise fun a b => a ≠ b := by
    refine List.Pairwise.imp ?_ hkeys
    rintro a b hne rfl
    exact hne rfl
  refine (List.perm_ext_iff_of_nodup hascending hdistinct).mpr fun entry => ?_
  have hnew : ∀ entry ∈ entries, (empty : Table α).get? entry.1 = none := fun _ _ => rfl
  rw [show entry = (entry.1, entry.2) from rfl, mem_entries_iff, ofList,
    get?_insertAll_iff hkeys hnew]
  exact or_iff_left nofun

theorem erase_mapValues (table : Table α) (f : α → β) (key : String) :
    (table.mapValues f).erase key = (table.erase key).mapValues f := by
  simp only [erase, mapValues, List.filter_map]
  rfl

theorem erase_erase (table : Table α) (key : String) :
    (table.erase key).erase key = table.erase key := by
  refine ext_get? fun other => ?_
  by_cases h : other = key <;> simp [h]

theorem erase_insertAll (table : Table α) (entries : List (String × α)) (key : String) :
    (table.insertAll entries).erase key =
      (table.erase key).insertAll (entries.filter (·.1 ≠ key)) := by
  induction entries generalizing table with
  | nil => rfl
  | cons head rest ih =>
    rw [List.filter_cons]
    by_cases h : head.1 = key
    · have hinsert : (table.insert head.1 head.2).erase key = table.erase key := by
        refine ext_get? fun other => ?_
        by_cases hother : other = key <;> simp [h, hother]
      rw [if_neg (by simpa using h), ← hinsert]
      exact ih _
    · have hinsert :
          (table.insert head.1 head.2).erase key = (table.erase key).insert head.1 head.2 := by
        refine ext_get? fun other => ?_
        by_cases hother : other = key <;> by_cases hhead : other = head.1 <;>
          simp_all
      rw [if_pos (by simpa using h)]
      change ((table.insert head.1 head.2).insertAll rest).erase key =
        ((table.erase key).insert head.1 head.2).insertAll _
      rw [ih, hinsert]

theorem erase_ofList (entries : List (String × α)) (key : String) :
    (ofList entries).erase key = ofList (entries.filter (·.1 ≠ key)) := by
  rw [ofList, erase_insertAll]
  rfl

theorem get?_foldl_erase {keys : List String} {key : String} (hkey : key ∉ keys)
    (table : Table α) : (keys.foldl Table.erase table).get? key = table.get? key := by
  induction keys generalizing table with
  | nil => rfl
  | cons first rest ih =>
    rw [List.mem_cons, not_or] at hkey
    rw [List.foldl_cons, ih hkey.2, get?_erase, if_neg hkey.1]

/-- Erased entries are not missed by what does not select them. -/
theorem filterMap_foldl_erase {select : String × α → Option β} {keys : List String}
    (hselect : ∀ entry : String × α, entry.1 ∈ keys → select entry = none) (table : Table α) :
    (keys.foldl Table.erase table).toList.filterMap select = table.toList.filterMap select := by
  induction keys generalizing table with
  | nil => rfl
  | cons first rest ih =>
    have hrest : ∀ entry : String × α, entry.1 ∈ rest → select entry = none := fun entry hmem =>
      hselect entry (List.mem_cons_of_mem first hmem)
    rw [List.foldl_cons, ih hrest, toList, toList, erase, List.filterMap_filter]
    congr 1
    funext entry
    by_cases heq : entry.1 = first
    · simp [heq, hselect entry (heq ▸ List.mem_cons_self)]
    · simp [heq]

end Table

end MemberDiscovery
