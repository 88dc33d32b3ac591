/-! # Splitting text

The parts of a text between separators. There is always one part more than there are separators.
-/

namespace MemberDiscovery.Text

def splitWhere (p : Char → Bool) : List Char → List (List Char)
  | [] => [[]]
  | c :: rest =>
    if p c then [] :: splitWhere p rest
    else
      match splitWhere p rest with
      | [] => [[c]]
      | part :: parts => (c :: part) :: parts

def splitAtChar (mark : Char) (text : String) : List String :=
  (splitWhere (· = mark) text.toList).map String.ofList

theorem splitWhere_ne_nil (p : Char → Bool) (chars : List Char) : splitWhere p chars ≠ [] := by
  cases chars with
  | nil => simp [splitWhere]
  | cons c rest =>
    simp only [splitWhere]
    split
    · simp
    · split <;> simp

/-- No part contains a separator. -/
theorem not_of_mem_splitWhere {p : Char → Bool} {chars part : List Char}
    (hpart : part ∈ splitWhere p chars) {c : Char} (hc : c ∈ part) : p c = false := by
  induction chars generalizing part with
  | nil =>
    simp only [splitWhere, List.mem_singleton] at hpart
    subst hpart
    simp at hc
  | cons head rest ih =>
    simp only [splitWhere] at hpart
    split at hpart
    next hsep =>
      rcases List.mem_cons.mp hpart with rfl | hmem
      · simp at hc
      · exact ih hmem hc
    next hsep =>
      split at hpart
      next hnil => exact absurd hnil (splitWhere_ne_nil p rest)
      next first parts heq =>
        rcases List.mem_cons.mp hpart with rfl | hmem
        · rcases List.mem_cons.mp hc with rfl | hc
          · simpa using hsep
          · exact ih (heq ▸ List.mem_cons_self) hc
        · exact ih (heq ▸ List.mem_cons_of_mem _ hmem) hc

theorem splitWhere_append_cons {p : Char → Bool} {c : Char} (hc : p c = true)
    (front back : List Char) :
    splitWhere p (front ++ c :: back) = splitWhere p front ++ splitWhere p back := by
  induction front with
  | nil => simp [splitWhere, hc]
  | cons head rest ih =>
    rw [List.cons_append, splitWhere, splitWhere, ih]
    split
    · rfl
    · cases hparts : splitWhere p rest with
      | nil => exact absurd hparts (splitWhere_ne_nil p rest)
      | cons part parts => rfl

theorem splitWhere_of_forall {p : Char → Bool} {chars : List Char}
    (hchars : ∀ c ∈ chars, p c = false) : splitWhere p chars = [chars] := by
  induction chars with
  | nil => rfl
  | cons head rest ih =>
    rw [splitWhere, ih fun c hc => hchars c (List.mem_cons_of_mem _ hc),
      hchars head List.mem_cons_self]
    rfl

theorem length_splitWhere (p : Char → Bool) (chars : List Char) :
    (splitWhere p chars).length = chars.countP p + 1 := by
  induction chars with
  | nil => rfl
  | cons head rest ih =>
    rw [splitWhere, List.countP_cons]
    split
    · rw [List.length_cons, ih]
    · cases hparts : splitWhere p rest with
      | nil => exact absurd hparts (splitWhere_ne_nil p rest)
      | cons part parts =>
        rw [hparts] at ih
        exact ih

/-- Parts that stand behind a separator each are the parts of the text that they make. -/
theorem splitWhere_append_flatMap {p : Char → Bool} {c : Char} (hc : p c = true)
    (front : List Char) {parts : List (List Char)}
    (hparts : ∀ part ∈ parts, ∀ d ∈ part, p d = false) :
    splitWhere p (front ++ parts.flatMap (c :: ·)) = splitWhere p front ++ parts := by
  induction parts generalizing front with
  | nil => simp
  | cons part parts ih =>
    rw [List.flatMap_cons, List.cons_append, splitWhere_append_cons hc,
      ih part fun other hother => hparts other (List.mem_cons_of_mem _ hother),
      splitWhere_of_forall (hparts part List.mem_cons_self), List.singleton_append]

/-- The last separator of a list tells where it is parted. -/
theorem eq_of_append_cons_eq {α : Type} {a : α} {front left back right : List α}
    (hback : a ∉ back) (hright : a ∉ right) (heq : front ++ a :: back = left ++ a :: right) :
    front = left ∧ back = right := by
  rcases List.append_eq_append_iff.mp heq with ⟨between, rfl, hrest⟩ | ⟨between, rfl, hrest⟩
  · cases between with
    | nil => exact ⟨(List.append_nil _).symm, (List.cons.inj hrest).2⟩
    | cons b between =>
      obtain ⟨-, rfl⟩ := List.cons.inj hrest
      exact absurd (List.mem_append_right between List.mem_cons_self) hback
  · cases between with
    | nil => exact ⟨List.append_nil _, (List.cons.inj hrest).2.symm⟩
    | cons b between =>
      obtain ⟨-, rfl⟩ := List.cons.inj hrest
      exact absurd (List.mem_append_right between List.mem_cons_self) hright

end MemberDiscovery.Text
