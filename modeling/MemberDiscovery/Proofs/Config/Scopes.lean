import MemberDiscovery.Config.PropertySet

/-! # What belongs to a scope

A scope owns the properties whose keys begin with its name and a point. It sees nothing else: what
it reads of a property set, one value or all values below a key, is the same for property sets that
agree on what it owns (`PropertySet.AgreeIn`), and others may change their properties at will.
-/

namespace MemberDiscovery

namespace Scope

theorem afterPrefix?_eq_some_iff {head text rest : String} :
    afterPrefix? head text = some rest ↔ text = head ++ rest := by
  unfold afterPrefix?
  split
  next hprefix =>
    obtain ⟨tail, htail⟩ := List.isPrefixOf_iff_prefix.mp hprefix
    rw [← htail, List.drop_left, Option.some.injEq, ← String.toList_inj, ← String.toList_inj,
      String.toList_append, ← htail, String.toList_ofList, List.append_cancel_left_eq]
  next hprefix =>
    refine iff_of_false nofun ?_
    rintro rfl
    exact hprefix (by simp)

/-- What stands below a key is known by the rest of its own key. -/
theorem get?_below (scope : Scope) (suffix rest : String) :
    (scope.below suffix).get? rest = scope.properties.get? (scope.key suffix ++ "." ++ rest) := by
  let select := fun entry : String × String =>
    (afterPrefix? (scope.key suffix ++ ".") entry.1).map fun rest => (rest, entry.2)
  have hselect : ∀ {entry found : String × String}, select entry = some found ↔
      entry = (scope.key suffix ++ "." ++ found.1, found.2) := by
    intro entry found
    simp only [select, Option.map_eq_some_iff, afterPrefix?_eq_some_iff, Prod.ext_iff]
    constructor
    · rintro ⟨_, hkey, rfl, hvalue⟩
      exact ⟨hkey, hvalue⟩
    · rintro ⟨hkey, hvalue⟩
      exact ⟨found.1, hkey, rfl, hvalue⟩
  have hkeys : (scope.properties.toList.filterMap select).Pairwise fun a b => a.1 ≠ b.1 := by
    apply scope.properties.ascending.filterMap
    intro entry other hless found hfound later hlater heq
    rw [hselect.mp hfound, hselect.mp hlater, heq] at hless
    exact String.lt_irrefl _ hless
  ext value
  rw [below, Table.get?_ofList_iff_mem hkeys, List.mem_filterMap, ← Table.mem_entries_iff]
  constructor
  · rintro ⟨entry, hmem, hfound⟩
    exact hselect.mp hfound ▸ hmem
  · intro hmem
    exact ⟨_, hmem, hselect.mpr rfl⟩

/-- The word for yes or the word for no, in any case. -/
def SpellsFlag (word : String) (value : Bool) : Prop :=
  Text.equalsIgnoringCase word (if value then "true" else "false") = true

theorem readFlag?_eq_some_iff {word : String} {value : Bool} :
    readFlag? word = some value ↔ SpellsFlag word value := by
  unfold readFlag? SpellsFlag
  by_cases htrue : Text.equalsIgnoringCase word "true" = true
  · have hfalse : Text.equalsIgnoringCase word "false" = false := by
      simp only [Text.equalsIgnoringCase, beq_iff_eq] at htrue ⊢
      rw [htrue]
      decide
    cases value <;> simp [htrue, hfalse]
  · cases value <;> simp [htrue]

/-- The keys that begin with the name of a scope and a point. -/
def Owns (scopeName key : String) : Prop :=
  ∃ suffix, key = scopeName ++ "." ++ suffix

/-- A name that only goes on as a text belongs to another scope. -/
theorem not_owns_of_longer {scopeName more : String} (hmore : more ≠ "")
    (hpoint : more.toList.head? ≠ some '.') (suffix : String) :
    ¬ Owns scopeName (scopeName ++ more ++ "." ++ suffix) := by
  rintro ⟨rest, heq⟩
  have hchars := congrArg String.toList heq
  simp only [String.toList_append, List.append_assoc, List.append_cancel_left_eq] at hchars
  cases hlist : more.toList with
  | nil => exact hmore (String.toList_eq_nil_iff.mp hlist)
  | cons c chars =>
      rw [hlist] at hchars hpoint
      obtain ⟨rfl, -⟩ := List.cons.inj hchars
      exact hpoint rfl

theorem not_owns_of_shorter {other more : String} (hmore : more ≠ "")
    (hpoint : more.toList.head? ≠ some '.') (suffix : String) :
    ¬ Owns (other ++ more) (other ++ "." ++ suffix) := by
  rintro ⟨rest, heq⟩
  exact not_owns_of_longer hmore hpoint rest ⟨suffix, heq.symm⟩

end Scope

namespace PropertySet

variable {scopeName : String} {left right properties : PropertySet}

/-- Property sets that agree on what a scope owns. -/
def AgreeIn (scopeName : String) (left right : PropertySet) : Prop :=
  ∀ key, Scope.Owns scopeName key → left.get? key = right.get? key

theorem AgreeIn.get?_scope (hagree : AgreeIn scopeName left right) :
    (left.scope scopeName).get? = (right.scope scopeName).get? := by
  funext suffix
  have hvalue := hagree (scopeName ++ "." ++ suffix) ⟨suffix, rfl⟩
  simp only [Scope.get?, scope, Scope.key, hvalue]

theorem AgreeIn.below_scope (hagree : AgreeIn scopeName left right) :
    (left.scope scopeName).below = (right.scope scopeName).below := by
  funext suffix
  apply Table.ext_get?
  intro rest
  rw [Scope.get?_below, Scope.get?_below]
  refine hagree _ ⟨suffix ++ "." ++ rest, ?_⟩
  simp only [Scope.key, scope, String.append_assoc]

end PropertySet

/-- A change of a property set. -/
inductive PropertyEdit where
  /-- A property is added, or its value is replaced. -/
  | insert (key value : String)
  | remove (key : String)
  deriving DecidableEq, Repr, Inhabited

namespace PropertyEdit

def key : PropertyEdit → String
  | .insert key _ => key
  | .remove key => key

def apply (properties : PropertySet) : PropertyEdit → PropertySet
  | .insert key value => properties.insert key value
  | .remove key => properties.erase key

theorem get?_apply {properties : PropertySet} {edit : PropertyEdit} {other : String}
    (hother : other ≠ edit.key) : (edit.apply properties).get? other = properties.get? other := by
  cases edit with
  | insert key value => exact (Table.get?_insert properties key value other).trans (if_neg hother)
  | remove key => exact (Table.get?_erase properties key other).trans (if_neg hother)

/-- A property has its value until it is edited itself. -/
theorem get?_foldl_apply {edits : List PropertyEdit} {other : String}
    (hother : ∀ edit ∈ edits, other ≠ edit.key) (properties : PropertySet) :
    (edits.foldl apply properties).get? other = properties.get? other := by
  induction edits generalizing properties with
  | nil => rfl
  | cons edit edits ih =>
      rw [List.foldl_cons, ih fun later hlater => hother later (List.mem_cons_of_mem edit hlater)]
      exact get?_apply (hother edit List.mem_cons_self)

/-- What others do to their properties does not show in a scope. -/
theorem agreeIn_foldl_apply {scopeName : String} {edits : List PropertyEdit}
    (houtside : ∀ edit ∈ edits, ¬ Scope.Owns scopeName edit.key) (properties : PropertySet) :
    properties.AgreeIn scopeName (edits.foldl apply properties) := by
  intro key howns
  refine (get?_foldl_apply ?_ properties).symm
  rintro edit hedit rfl
  exact houtside edit hedit howns

end PropertyEdit

end MemberDiscovery
