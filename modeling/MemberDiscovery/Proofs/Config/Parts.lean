import MemberDiscovery.Proofs.Config.LogicalLines

/-! # Keys and values of logical lines

A logical line is a key and a value with a separator between them. Main statement: there is one way
to take a line apart like this, and it is the one that is read (`parts_iff`).
-/

namespace MemberDiscovery.PropertyText

/-- A key has no separator in it that is not escaped. -/
def IsKey (key : List Char) : Prop :=
  ∀ before c after, key = before ++ c :: after → c ∈ signs ++ blanks → Escapes before

/-- A separator before a value: blanks around at most one sign, and as many of them as can be. -/
inductive Separated : List Char → List Char → Prop where
  | none : Separated [] []
  | blank {separator value : List Char} (hseparator : separator ⊆ blanks) (hne : separator ≠ [])
      (hvalue : ∀ c ∈ value.head?, c ∉ signs ++ blanks) : Separated (separator ++ value) value
  | sign {before rest value : List Char} {c : Char} (hbefore : before ⊆ blanks) (hc : c ∈ signs)
      (hrest : Content rest value) : Separated (before ++ c :: rest) value

/-- A logical line with its key and its value. -/
inductive Parts : List Char → List Char → List Char → Prop where
  | split {key rest value : List Char} (hkey : IsKey key) (hends : rest ≠ [] → ¬ Escapes key)
      (hrest : Separated rest value) : Parts (key ++ rest) key value

theorem isKey_nil : IsKey [] := by
  intro before c after heq
  simp at heq

theorem isKey_cons {c : Char} (hc : c ≠ '\\') {key : List Char} :
    IsKey (c :: key) ↔ c ∉ signs ++ blanks ∧ IsKey key := by
  constructor
  · intro hkey
    refine ⟨fun hmem => not_escapes_nil (hkey [] c key rfl hmem), ?_⟩
    intro before d after heq hd
    exact (escapes_cons hc).mp (hkey (c :: before) d after (by rw [heq]; rfl) hd)
  · rintro ⟨hplain, hkey⟩ before d after heq hd
    cases before with
    | nil =>
        obtain ⟨rfl, -⟩ := List.cons.inj heq
        exact absurd hd hplain
    | cons first before =>
        obtain ⟨rfl, hrest⟩ := List.cons.inj heq
        exact (escapes_cons hc).mpr (hkey before d after hrest hd)

/-- An escaped character may be a separator. -/
theorem isKey_cons_cons {c : Char} {key : List Char} : IsKey ('\\' :: c :: key) ↔ IsKey key := by
  constructor
  · intro hkey before d after heq hd
    exact escapes_cons_cons.mp (hkey ('\\' :: c :: before) d after (by rw [heq]; rfl) hd)
  · intro hkey before d after heq hd
    match before with
    | [] =>
        obtain ⟨rfl, -⟩ := List.cons.inj heq
        exact absurd hd (by decide)
    | [first] =>
        obtain ⟨rfl, -⟩ := List.cons.inj heq
        exact escapes_iff.mpr rfl
    | first :: second :: before =>
        obtain ⟨rfl, hmore⟩ := List.cons.inj heq
        obtain ⟨rfl, hrest⟩ := List.cons.inj hmore
        exact escapes_cons_cons.mpr (hkey before d after hrest hd)

theorem isKey_escape : IsKey ['\\'] := by
  intro before c after heq hc
  obtain ⟨rfl, hrest⟩ := List.append_eq_singleton_iff.mp heq.symm |>.resolve_right (by simp)
  obtain ⟨rfl, -⟩ := List.cons.inj hrest
  exact absurd hc (by decide)

theorem splitKey_cons {c : Char} (hc : c ≠ '\\') (rest : List Char) :
    splitKey (c :: rest) =
      if endsKey c then ([], c :: rest) else (c :: (splitKey rest).1, (splitKey rest).2) := by
  cases rest <;> simp [splitKey, hc]

/-- A line is split where its key ends. -/
theorem splitKey_append {key rest : List Char} (hkey : IsKey key)
    (hrest : ∀ c ∈ rest.head?, c ∈ signs ++ blanks ∧ ¬ Escapes key) :
    splitKey (key ++ rest) = (key, rest) := by
  induction key using splitKey.induct with
  | case1 =>
      cases rest with
      | nil => rfl
      | cons c rest => exact splitKey_ends (hrest c rfl).1 rest
  | case2 c key ih =>
      rw [escapes_cons_cons] at hrest
      simp [splitKey, ih (isKey_cons_cons.mp hkey) hrest]
  | case3 c key _ hends => exact absurd (hkey [] c key rfl (endsKey_iff.mp hends)) not_escapes_nil
  | case4 c key hescape hends ih =>
      by_cases hc : c = '\\'
      · subst hc
        cases key with
        | cons next key => exact absurd rfl (hescape next key rfl)
        | nil =>
            cases rest with
            | nil => rfl
            | cons d rest => exact absurd (escapes_iff.mpr rfl) (hrest d rfl).2
      · rw [escapes_cons hc] at hrest
        rw [List.cons_append, splitKey_cons hc, if_neg hends, ih ((isKey_cons hc).mp hkey).2 hrest]

theorem splitKey_spec (line : List Char) :
    line = (splitKey line).1 ++ (splitKey line).2 ∧ IsKey (splitKey line).1 ∧
      ∀ c ∈ (splitKey line).2.head?, c ∈ signs ++ blanks ∧ ¬ Escapes (splitKey line).1 := by
  induction line using splitKey.induct with
  | case1 => exact ⟨rfl, isKey_nil, by simp [splitKey]⟩
  | case2 c rest ih =>
      obtain ⟨hline, hkey, hrest⟩ := ih
      rw [splitKey, escapes_cons_cons]
      exact ⟨by simpa using hline, isKey_cons_cons.mpr hkey, hrest⟩
  | case3 c rest _ hends =>
      have hc := endsKey_iff.mp hends
      rw [splitKey_ends hc]
      exact ⟨rfl, isKey_nil, by simpa [not_escapes_nil] using hc⟩
  | case4 c rest hescape hends ih =>
      by_cases hc : c = '\\'
      · subst hc
        cases rest with
        | cons next rest => exact absurd rfl (hescape next rest rfl)
        | nil => exact ⟨rfl, isKey_escape, by simp [splitKey, endsKey, isGap]⟩
      · obtain ⟨hline, hkey, hrest⟩ := ih
        rw [splitKey_cons hc, if_neg hends, escapes_cons hc]
        exact ⟨by simpa using hline, (isKey_cons hc).mpr ⟨mt endsKey_iff.mpr hends, hkey⟩, hrest⟩

theorem dropSeparator_blanks {margin : List Char} (hmargin : margin ⊆ blanks)
    (rest : List Char) : dropSeparator (margin ++ rest) = dropSeparator rest := by
  simp only [dropSeparator, dropWhile_blanks hmargin]

theorem dropSeparator_sign {c : Char} (hc : c ∈ signs) (rest : List Char) :
    dropSeparator (c :: rest) = rest.dropWhile isGap := by
  obtain rfl | rfl : c = '=' ∨ c = ':' := by simpa [signs] using hc
  all_goals simp [dropSeparator, isGap]

theorem dropSeparator_value {value : List Char} (hvalue : ∀ c ∈ value.head?, c ∉ signs ++ blanks) :
    dropSeparator value = value := by
  cases value with
  | nil => rfl
  | cons c rest =>
      obtain ⟨hsign, hblank⟩ := not_or.mp (List.mem_append.not.mp (hvalue c rfl))
      rw [dropSeparator, List.dropWhile_cons_of_neg fun hgap => hblank (isGap_iff.mp hgap)]
      split <;> simp_all [signs]

theorem separated_iff {rest value : List Char} (hrest : ∀ c ∈ rest.head?, c ∈ signs ++ blanks) :
    Separated rest value ↔ dropSeparator rest = value := by
  constructor
  · intro hvalue
    cases hvalue with
    | none => rfl
    | blank hseparator _ hvalue => rw [dropSeparator_blanks hseparator, dropSeparator_value hvalue]
    | sign hbefore hc hrest =>
        rw [dropSeparator_blanks hbefore, dropSeparator_sign hc, hrest.dropWhile_eq]
  · rintro rfl
    obtain ⟨content, hrestContent⟩ : ∃ content, Content rest content := ⟨_, content_dropWhile rest⟩
    obtain @⟨margin, content, hmargin, hcontent⟩ := hrestContent
    rw [dropSeparator_blanks hmargin]
    by_cases hsign : ∃ c ∈ content.head?, c ∈ signs
    · obtain ⟨c, hhead, hc⟩ := hsign
      obtain ⟨after, rfl⟩ := List.head?_eq_some_iff.mp hhead
      rw [dropSeparator_sign hc]
      exact .sign hmargin hc (content_dropWhile _)
    · have hvalue : ∀ c ∈ content.head?, c ∉ signs ++ blanks := by
        intro c hhead hmem
        rcases List.mem_append.mp hmem with hc | hc
        · exact hsign ⟨c, hhead, hc⟩
        · exact hcontent c hhead hc
      rw [dropSeparator_value hvalue]
      by_cases hne : margin = []
      · subst hne
        cases content with
        | nil => exact .none
        | cons c after => exact absurd (hrest c rfl) (hvalue c rfl)
      · exact .blank hmargin hne hvalue

theorem Separated.head_mem {rest value : List Char} (hrest : Separated rest value) :
    ∀ c ∈ rest.head?, c ∈ signs ++ blanks := by
  cases hrest with
  | none => simp
  | blank hseparator hne =>
      obtain ⟨c, separator, rfl⟩ := List.exists_cons_of_ne_nil hne
      simpa using Or.inr (hseparator List.mem_cons_self)
  | @sign before rest value c hbefore hc =>
      cases before with
      | nil => simpa using Or.inl hc
      | cons first before => simpa using Or.inr (hbefore List.mem_cons_self)

theorem parts_iff {line key value : List Char} :
    Parts line key value ↔
      (splitKey line).1 = key ∧ dropSeparator (splitKey line).2 = value := by
  constructor
  · rintro ⟨hkey, hends, hrest⟩
    have hstart := hrest.head_mem
    have hsplit := splitKey_append hkey fun c hc =>
      ⟨hstart c hc, hends (List.ne_nil_of_mem (List.mem_of_mem_head? hc))⟩
    rw [hsplit]
    exact ⟨rfl, (separated_iff hstart).mp hrest⟩
  · rintro ⟨rfl, rfl⟩
    obtain ⟨hline, hkey, hrest⟩ := splitKey_spec line
    have hvalue := (separated_iff fun c hc => (hrest c hc).1).mpr rfl
    have hends : (splitKey line).2 ≠ [] → ¬ Escapes (splitKey line).1 := fun hne =>
      (hrest _ (List.head_mem_head? hne)).2
    have hparts := Parts.split hkey hends hvalue
    rwa [← hline] at hparts

theorem Separated.exists_front {rest value : List Char} (hrest : Separated rest value) :
    ∃ front, rest = front ++ value ∧ '\\' ∉ front := by
  have hplain : '\\' ∉ signs ++ blanks := by decide
  have hblanks : ∀ {text : List Char}, text ⊆ blanks → '\\' ∉ text :=
    fun hsubset hmem => hplain (List.mem_append_right _ (hsubset hmem))
  cases hrest with
  | none => exact ⟨[], rfl, by simp⟩
  | @blank separator _ hseparator => exact ⟨separator, rfl, hblanks hseparator⟩
  | @sign before _ _ c hbefore hc hrest =>
      obtain @⟨margin, _, hmargin⟩ := hrest
      refine ⟨before ++ c :: margin, by simp, ?_⟩
      have hsign : c ≠ '\\' := by
        rintro rfl
        exact hplain (List.mem_append_left _ hc)
      simp [hblanks hbefore, hblanks hmargin, hsign.symm]

/-- No escape is open at the end of a key or a value if none is at the end of the line. -/
theorem Parts.not_escapes {line key value : List Char} (hparts : Parts line key value)
    (hline : ¬ Escapes line) : ¬ Escapes key ∧ ¬ Escapes value := by
  obtain @⟨key, rest, value, _, hends, hrest⟩ := hparts
  obtain ⟨front, rfl, hfront⟩ := hrest.exists_front
  have hkey : ¬ Escapes key := by
    by_cases hne : front ++ value = []
    · simpa [hne] using hline
    · exact hends hne
  rw [escapes_append hkey, escapes_append (not_escapes_of_not_mem hfront)] at hline
  exact ⟨hkey, hline⟩

end MemberDiscovery.PropertyText
