import Mathlib.Data.List.Basic

/-! # Readings that check one thing after another

One reading is that of a value that may be absent: an absent value stands for a default, and one
that cannot be read is an error (`readOptional`). A reading that goes through several checks fails
at the first one that refuses, with what this one says, and succeeds if none refuses (`FailsFirst`).
What a check refuses is given as a relation between the check and the error, so that nothing is said
about how it is made.
-/

namespace MemberDiscovery

variable {ι α β ε : Type} {Refuses : ι → ε → Prop} {check : ι} {checks : List ι} {error : ε}

/-- A reading that goes on succeeds if both of its parts do. -/
theorem bind_eq_ok_iff {first : Except ε α} {next : α → Except ε β} {result : β} :
    first >>= next = .ok result ↔ ∃ value, first = .ok value ∧ next value = .ok result := by
  cases first with
  | error error => exact iff_of_false nofun (by simp)
  | ok value =>
      change next value = .ok result ↔ _
      simp

/-! ## Values that may be absent -/

/-- Reads a value, or takes the default if there is none. -/
def readOptional (value? : Option ι) (default : α) (parse? : ι → Option α) (refusal : ι → ε) :
    Except ε α :=
  match value? with
  | none => .ok default
  | some value =>
    match parse? value with
    | some result => .ok result
    | none => .error (refusal value)

/-- What a value is read as: what it spells, or the default if there is none. -/
inductive ReadsAs (Value : Option ι → Prop) (default : α) (Spells : ι → α → Prop) : α → Prop where
  | given {value : ι} {result : α} (hvalue : Value (some value)) (hspells : Spells value result) :
      ReadsAs Value default Spells result
  | default (hnone : Value none) : ReadsAs Value default Spells default

section ReadOptional

variable {Value : Option ι → Prop} {Spells : ι → α → Prop} {value? : Option ι}
  {default result : α} {parse? : ι → Option α} {refusal : ι → ε}
  (hvalue : ∀ {value}, Value value ↔ value? = value)
  (hparse : ∀ {value result}, parse? value = some result ↔ Spells value result)

include hvalue hparse

theorem readOptional_eq_ok_iff :
    readOptional value? default parse? refusal = .ok result ↔
      ReadsAs Value default Spells result := by
  unfold readOptional
  constructor
  · intro hread
    split at hread
    next =>
      obtain rfl := Except.ok.inj hread
      exact .default (hvalue.mpr rfl)
    next value =>
      split at hread
      next other hother =>
        obtain rfl := Except.ok.inj hread
        exact .given (hvalue.mpr rfl) (hparse.mp hother)
      next => cases hread
  · intro hread
    cases hread with
    | given hgiven hspells =>
        rw [hvalue.mp hgiven]
        simp only [hparse.mpr hspells]
    | default hnone => rw [hvalue.mp hnone]

theorem readOptional_eq_error_iff :
    readOptional value? default parse? refusal = .error error ↔
      ∃ value, Value (some value) ∧ (¬ ∃ result, Spells value result) ∧ error = refusal value := by
  have hnone : ∀ {value}, parse? value = none ↔ ¬ ∃ result, Spells value result := by
    intro value
    simp only [← hparse, Option.eq_none_iff_forall_ne_some, ne_eq, not_exists]
  unfold readOptional
  constructor
  · intro hread
    split at hread
    next => cases hread
    next value =>
      split at hread
      next => cases hread
      next hother =>
        exact ⟨value, hvalue.mpr rfl, hnone.mp hother, (Except.error.inj hread).symm⟩
  · rintro ⟨value, hgiven, hspells, rfl⟩
    rw [hvalue.mp hgiven]
    simp only [hnone.mpr hspells]

end ReadOptional

/-! ## Several checks -/

/-- The error of the first check that refuses. -/
def FirstRefusal (Refuses : ι → ε → Prop) (checks : List ι) (error : ε) : Prop :=
  ∃ before check after, checks = before ++ check :: after ∧
    (∀ earlier ∈ before, ∀ other, ¬ Refuses earlier other) ∧ Refuses check error

theorem not_firstRefusal_nil : ¬ FirstRefusal Refuses [] error := by
  rintro ⟨before, check, after, hchecks, -⟩
  simp at hchecks

theorem firstRefusal_cons_iff :
    FirstRefusal Refuses (check :: checks) error ↔
      Refuses check error ∨
        (∀ other, ¬ Refuses check other) ∧ FirstRefusal Refuses checks error := by
  constructor
  · rintro ⟨before, refused, after, hchecks, hbefore, hrefuses⟩
    cases before with
    | nil =>
        obtain ⟨rfl, -⟩ := List.cons.inj hchecks
        exact .inl hrefuses
    | cons first before =>
        obtain ⟨rfl, rfl⟩ := List.cons.inj hchecks
        obtain ⟨hfirst, hbefore⟩ := List.forall_mem_cons.mp hbefore
        exact .inr ⟨hfirst, before, refused, after, rfl, hbefore, hrefuses⟩
  · rintro (hrefuses | ⟨hpasses, before, refused, after, rfl, hbefore, hrefuses⟩)
    · exact ⟨[], check, checks, rfl, by simp, hrefuses⟩
    · exact ⟨check :: before, refused, after, rfl, List.forall_mem_cons.mpr ⟨hpasses, hbefore⟩,
        hrefuses⟩

/-- Among checks that do not all pass there is a first one that refuses. -/
theorem exists_firstRefusal_iff :
    (∃ error, FirstRefusal Refuses checks error) ↔
      ∃ check ∈ checks, ∃ error, Refuses check error := by
  induction checks with
  | nil => simp [not_firstRefusal_nil]
  | cons check checks ih =>
      simp only [firstRefusal_cons_iff, List.exists_mem_cons_iff, ← ih]
      by_cases hpasses : ∀ other, ¬ Refuses check other
      · simp [hpasses]
      · obtain ⟨error, hrefuses⟩ := not_forall_not.mp hpasses
        exact iff_of_true ⟨error, .inl hrefuses⟩ (.inl ⟨error, hrefuses⟩)

/-- A reading that fails exactly as the first check says that refuses. -/
def FailsFirst (Refuses : ι → ε → Prop) (checks : List ι) (reading : Except ε α) : Prop :=
  ∀ error, reading = .error error ↔ FirstRefusal Refuses checks error

namespace FailsFirst

theorem ok (value : α) : FailsFirst Refuses [] (.ok value : Except ε α) :=
  fun _ => iff_of_false nofun not_firstRefusal_nil

/-- A check that is made before others. -/
theorem bind {first : Except ε α} {next : α → Except ε β}
    (hfirst : ∀ error, first = .error error ↔ Refuses check error)
    (hnext : ∀ value, first = .ok value → FailsFirst Refuses checks (next value)) :
    FailsFirst Refuses (check :: checks) (first >>= next) := by
  intro error
  rw [firstRefusal_cons_iff, ← hfirst]
  simp only [← hfirst]
  cases first with
  | error other =>
      change Except.error other = Except.error error ↔ _
      constructor
      · rintro ⟨⟩
        exact .inl rfl
      · rintro (heq | ⟨hpasses, -⟩)
        · cases heq
          rfl
        · exact absurd rfl (hpasses other)
  | ok value =>
      change next value = .error error ↔ _
      rw [hnext value rfl error]
      simp

theorem exists_ok_iff {reading : Except ε α} (hreading : FailsFirst Refuses checks reading) :
    (∃ value, reading = .ok value) ↔ ∀ check ∈ checks, ∀ error, ¬ Refuses check error := by
  have hnone : (∀ check ∈ checks, ∀ error, ¬ Refuses check error) ↔
      ∀ error, reading ≠ .error error := by
    simp only [ne_eq, hreading _]
    rw [← not_exists, exists_firstRefusal_iff]
    simp only [not_exists, not_and]
  rw [hnone]
  cases reading with
  | error error => exact iff_of_false nofun fun hno => hno error rfl
  | ok value => exact iff_of_true ⟨value, rfl⟩ nofun

end FailsFirst

end MemberDiscovery
