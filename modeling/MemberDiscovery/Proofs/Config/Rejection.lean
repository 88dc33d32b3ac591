import MemberDiscovery.Proofs.Config.BadEscapes

/-! # When properties are rejected

A text of properties is rejected for bad `\uXXXX` escapes and for nothing else. Main statement: a
text is rejected exactly if a key or a value on one of its logical lines has a bad escape, and
otherwise the value of each key is what the last logical line with that key says
(`parse_rejects_or_reads`).
-/

namespace MemberDiscovery.PropertyText

/-- What a logical line says about a key. -/
def Says (line : List Char) (key value : String) : Prop :=
  ∃ keyPart valuePart, Parts line keyPart valuePart ∧ Reads keyPart key.toList ∧
    Reads valuePart value.toList

theorem toOption_entry_parts {line key value : List Char} (hparts : Parts line key value) :
    (entry line).toOption = (unescape [] key).toOption.bind fun keyText =>
      (unescape [] value).toOption.map fun valueText =>
        (String.ofList keyText, String.ofList valueText) := by
  obtain ⟨rfl, rfl⟩ := parts_iff.mp hparts
  simp only [entry, Except.toOption_bind, Except.toOption_pure, Option.map_eq_bind]
  rfl

theorem parts_splitKey (line : List Char) :
    Parts line (splitKey line).1 (dropSeparator (splitKey line).2) :=
  parts_iff.mpr ⟨rfl, rfl⟩

theorem entry_error_iff {line : List Char} :
    (∃ error, entry line = .error error) ↔
      ∃ key value, Parts line key value ∧ (BadEscape key ∨ BadEscape value) := by
  have hnone : ∀ {key value}, Parts line key value →
      ((entry line).toOption = none ↔ BadEscape key ∨ BadEscape value) := by
    intro key value hparts
    rw [toOption_entry_parts hparts, ← unescape_error_iff, ← unescape_error_iff, exists_error_iff,
      exists_error_iff]
    cases (unescape [] key).toOption <;> simp
  rw [exists_error_iff]
  constructor
  · intro hentry
    exact ⟨_, _, parts_splitKey line, (hnone (parts_splitKey line)).mp hentry⟩
  · rintro ⟨key, value, hparts, hbad⟩
    exact (hnone hparts).mpr hbad

theorem entry_ok_iff {line : List Char} (hline : ¬ Escapes line) {key value : String} :
    entry line = .ok (key, value) ↔ Says line key value := by
  have hsome : ∀ {keyPart valuePart}, Parts line keyPart valuePart →
      ((entry line).toOption = some (key, value) ↔
        Reads keyPart key.toList ∧ Reads valuePart value.toList) := by
    intro keyPart valuePart hparts
    obtain ⟨hkey, hvalue⟩ := hparts.not_escapes hline
    rw [toOption_entry_parts hparts, ← unescape_ok_iff hkey, ← unescape_ok_iff hvalue, eq_ok_iff,
      eq_ok_iff]
    cases (unescape [] keyPart).toOption <;> cases (unescape [] valuePart).toOption <;>
      simp [← String.toList_inj]
  rw [eq_ok_iff]
  constructor
  · intro hentry
    exact ⟨_, _, parts_splitKey line, (hsome (parts_splitKey line)).mp hentry⟩
  · rintro ⟨keyPart, valuePart, hparts, hreads⟩
    exact (hsome hparts).mpr hreads

/-- Either some line cannot be read, or all lines are. -/
theorem mapM_entry_cases (lines : List (List Char)) :
    (∃ line ∈ lines, ∃ error, entry line = .error error ∧ lines.mapM entry = .error error) ∨
      ∃ list, lines.mapM entry = .ok list ∧ lines.map entry = list.map .ok := by
  induction lines with
  | nil => exact .inr ⟨[], rfl, rfl⟩
  | cons line rest ih =>
      rw [List.mapM_cons]
      cases hentry : entry line with
      | error error => exact .inl ⟨line, List.mem_cons_self, error, hentry, rfl⟩
      | ok found =>
          rcases ih with ⟨bad, hmem, error, hbad, hrest⟩ | ⟨list, hlist, hmap⟩
          · exact .inl ⟨bad, List.mem_cons_of_mem _ hmem, error, hbad, by rw [hrest]; rfl⟩
          · exact .inr ⟨found :: list, by rw [hlist]; rfl, by rw [List.map_cons, hentry, hmap]; rfl⟩

/-- The last entry with a key is that of the last line which says something about the key. -/
theorem exists_last_entry_iff {lines : List (List Char)} {list : List (String × String)}
    (hmap : lines.map entry = list.map .ok) {key value : String} :
    (∃ before after, list = before ++ (key, value) :: after ∧ ∀ entry ∈ after, entry.1 ≠ key) ↔
      ∃ before line after, lines = before ++ line :: after ∧ entry line = .ok (key, value) ∧
        ∀ other ∈ after, ∀ given, entry other ≠ .ok (key, given) := by
  constructor
  · rintro ⟨before, after, rfl, hafter⟩
    rw [List.map_append, List.map_cons] at hmap
    obtain ⟨front, rest, rfl, -, hrest⟩ := List.map_eq_append_iff.mp hmap
    obtain ⟨line, back, rfl, hline, hback⟩ := List.map_eq_cons_iff.mp hrest
    refine ⟨front, line, back, rfl, hline, fun other hother given hgiven => ?_⟩
    have hmem : Except.ok (key, given) ∈ after.map (.ok : _ → Except EscapeError _) := by
      rw [← hback, ← hgiven]
      exact List.mem_map_of_mem hother
    exact hafter (key, given) (by simpa using hmem) rfl
  · rintro ⟨before, line, after, rfl, hline, hafter⟩
    rw [List.map_append, List.map_cons] at hmap
    obtain ⟨front, rest, rfl, -, hrest⟩ := List.map_eq_append_iff.mp hmap.symm
    obtain ⟨found, back, rfl, hfound, hback⟩ := List.map_eq_cons_iff.mp hrest
    rw [hline, Except.ok.injEq] at hfound
    subst hfound
    refine ⟨front, back, rfl, fun other hother hkey => ?_⟩
    have hmem : Except.ok other ∈ after.map entry := by
      rw [← hback]
      exact List.mem_map_of_mem hother
    obtain ⟨later, hlater, hlaterEq⟩ := List.mem_map.mp hmem
    exact hafter later hlater other.2 (by rw [hlaterEq, ← hkey])

/-- A text is rejected if and only if a key or a value on one of its logical lines has a bad escape.
Otherwise the value of a key is what the last logical line with that key says. -/
theorem parse_rejects_or_reads (text : String) :
    ∃ lines, (∀ others, Lines text.toList others ↔ others = lines) ∧
      ((∃ error, parse text = .error error) ↔
        ∃ line ∈ lines, ∃ key value, Parts line key value ∧ (BadEscape key ∨ BadEscape value)) ∧
      ∀ properties, parse text = .ok properties → ∀ key value,
        properties.get? key = some value ↔
          ∃ before line after, lines = before ++ line :: after ∧ Says line key value ∧
            ∀ other ∈ after, ∀ given, ¬ Says other key given := by
  have hlines : Lines text.toList (logicalLines none (naturalLines text.toList)) :=
    lines_iff.mpr rfl
  have hopen := hlines.not_escapes
  refine ⟨logicalLines none (naturalLines text.toList), fun _ => lines_iff, ?_⟩
  simp only [← entry_error_iff]
  unfold parse entries
  generalize logicalLines none (naturalLines text.toList) = lines at hopen
  rcases mapM_entry_cases lines with ⟨line, hline, error, hentry, hread⟩ | ⟨list, hread, hmap⟩
  · rw [hread]
    exact ⟨iff_of_true ⟨_, rfl⟩ ⟨line, hline, error, hentry⟩, nofun⟩
  · rw [hread]
    constructor
    · refine iff_of_false nofun ?_
      rintro ⟨line, hline, error, hentry⟩
      have hmem : entry line ∈ list.map .ok := by
        rw [← hmap]
        exact List.mem_map_of_mem hline
      rw [hentry] at hmem
      simp at hmem
    · rintro _ ⟨⟩ key value
      rw [Table.get?_ofList_iff, exists_last_entry_iff hmap]
      refine exists_congr fun before => exists_congr fun line => exists_congr fun after =>
        and_congr_right ?_
      rintro rfl
      refine and_congr (entry_ok_iff (hopen line (by simp))) ?_
      refine forall₂_congr fun other hother => forall_congr' fun given => ?_
      exact not_congr (entry_ok_iff (hopen other (by simp [hother])))

end MemberDiscovery.PropertyText
