import MemberDiscovery.Proofs.Config.Escapes

/-! # How a property may be spelled

A character of a key or a value can be written as it is, after a backslash, or as one or two
`\uXXXX` escapes. Main statement: a logical line that spells a key and a value, character by
character and in any of these ways, with a separator between them, is read as that key and that
value (`entry_of_spelled`).
-/

namespace MemberDiscovery.PropertyText

def blanks : List Char := [' ', '\t', '\x0c']

def signs : List Char := ['=', ':']

def lineBreaks : List Char := ['\n', '\r']

def commentMarks : List Char := ['#', '!']

/-- The characters that may have a part in the layout if no backslash stands before them. -/
def layoutMarks : List Char := commentMarks ++ signs ++ blanks ++ lineBreaks

/-- The characters that are written as they are nowhere in a key or a value. -/
def specials : List Char := '\\' :: layoutMarks

/-- The letters that do not stand for themselves after a backslash. -/
def escapeLetters : List Char := ['u', 't', 'n', 'r', 'f']

def lowerDigits : List Char := "0123456789abcdef".toList

def upperDigits : List Char := "0123456789ABCDEF".toList

def SpellsDigit (digit : Nat) (c : Char) : Prop :=
  lowerDigits[digit]? = some c ∨ upperDigits[digit]? = some c

inductive SpellsUnit : Nat → List Char → Prop where
  | digits {a b c d : Nat} {charA charB charC charD : Char} (ha : SpellsDigit a charA)
      (hb : SpellsDigit b charB) (hc : SpellsDigit c charC) (hd : SpellsDigit d charD) :
      SpellsUnit (((a * 16 + b) * 16 + c) * 16 + d) ['\\', 'u', charA, charB, charC, charD]

/-- The spellings of a character. -/
inductive SpellsChar : Char → List Char → Prop where
  | raw {c : Char} (hc : c ∉ specials) : SpellsChar c [c]
  | tab : SpellsChar '\t' ['\\', 't']
  | lineFeed : SpellsChar '\n' ['\\', 'n']
  | carriageReturn : SpellsChar '\r' ['\\', 'r']
  | formFeed : SpellsChar '\x0c' ['\\', 'f']
  | itself {c : Char} (hc : c ∉ escapeLetters ++ ['\t', '\n', '\r', '\x0c']) :
      SpellsChar c ['\\', c]
  | unit {c : Char} {unit : Nat} {text : List Char} (hunits : Text.unitsOf c = [unit])
      (htext : SpellsUnit unit text) : SpellsChar c text
  | units {c : Char} {high low : Nat} {first second : List Char}
      (hunits : Text.unitsOf c = [high, low]) (hfirst : SpellsUnit high first)
      (hsecond : SpellsUnit low second) : SpellsChar c (first ++ second)

/-- The spellings of a text on one line. -/
inductive Spelled : List Char → List Char → Prop where
  | nil : Spelled [] []
  | cons {c : Char} {token chars text : List Char} (hc : SpellsChar c token)
      (hrest : Spelled chars text) : Spelled (c :: chars) (token ++ text)

/-- The separators that may stand after a key. -/
inductive Separates (key : List Char) : List Char → Prop where
  | sign {before after : List Char} {c : Char} (hbefore : before ⊆ blanks) (hc : c ∈ signs)
      (hafter : after ⊆ blanks) : Separates key (before ++ c :: after)
  | blank {text : List Char} (hkey : key ≠ []) (htext : text ⊆ blanks) (hne : text ≠ []) :
      Separates key text

theorem digit?_of_spellsDigit {digit : Nat} {c : Char} (hc : SpellsDigit digit c) :
    Integer.digit? c = some digit ∧ digit < 16 := by
  have hlower : ∀ n : Fin lowerDigits.length, Integer.digit? lowerDigits[n] = some n.val := by
    decide
  have hupper : ∀ n : Fin upperDigits.length, Integer.digit? upperDigits[n] = some n.val := by
    decide
  rcases hc with hc | hc
  · obtain ⟨hlt, rfl⟩ := List.getElem?_eq_some_iff.mp hc
    exact ⟨hlower ⟨digit, hlt⟩, hlt⟩
  · obtain ⟨hlt, rfl⟩ := List.getElem?_eq_some_iff.mp hc
    exact ⟨hupper ⟨digit, hlt⟩, hlt⟩

theorem not_special_of_spellsDigit {digit : Nat} {c : Char} (hc : SpellsDigit digit c) :
    c ∉ specials := by
  obtain ⟨hdigit, -⟩ := digit?_of_spellsDigit hc
  have hspecials : ∀ c ∈ specials, Integer.digit? c = none := by
    simp [specials, layoutMarks, commentMarks, signs, blanks, lineBreaks, Integer.digit?]
  intro hmem
  rw [hspecials c hmem] at hdigit
  cases hdigit

/-! ## The units of a spelling -/

theorem units?_unit {unit : Nat} {text : List Char} (htext : SpellsUnit unit text)
    (rest : List Char) : units? (text ++ rest) = (units? rest).map (unit :: ·) := by
  obtain ⟨ha, hb, hc, hd⟩ := htext
  obtain ⟨ha, hlta⟩ := digit?_of_spellsDigit ha
  obtain ⟨hb, hltb⟩ := digit?_of_spellsDigit hb
  obtain ⟨hc, hltc⟩ := digit?_of_spellsDigit hc
  obtain ⟨hd, hltd⟩ := digit?_of_spellsDigit hd
  simp [units?, Integer.readDigits?, ha, hb, hc, hd, hlta, hltb, hltc, hltd]

theorem units?_itself {c : Char} (hc : c ∉ escapeLetters) (rest : List Char) :
    units? ('\\' :: c :: rest) = (units? rest).map (Text.unitsOf c ++ ·) := by
  simp only [escapeLetters, List.mem_cons, List.not_mem_nil, or_false, not_or] at hc
  obtain ⟨hu, ht, hn, hr, hf⟩ := hc
  have hunits : escapeUnits c = Text.unitsOf c := by simp [escapeUnits]
  simp [units?, hu, hunits]

theorem units?_raw {c : Char} (hc : c ≠ '\\') (rest : List Char) :
    units? (c :: rest) = (units? rest).map (Text.unitsOf c ++ ·) := by
  simp [units?, hc]

theorem units?_char {c : Char} {token : List Char} (htoken : SpellsChar c token)
    (rest : List Char) :
    units? (token ++ rest) = (units? rest).map (Text.unitsOf c ++ ·) := by
  cases htoken with
  | raw hc => exact units?_raw (by rintro rfl; exact hc (by decide)) rest
  | tab | lineFeed | carriageReturn | formFeed => rfl
  | itself hc => exact units?_itself (fun hmem => hc (List.mem_append_left _ hmem)) rest
  | unit hunits htext => rw [units?_unit htext, hunits]; rfl
  | units hunits hfirst hsecond =>
      rw [List.append_assoc, units?_unit hfirst, units?_unit hsecond, hunits, Option.map_map]
      rfl

theorem units?_spelled {chars text : List Char} (htext : Spelled chars text) :
    units? text = some (Text.encodeUnits chars) := by
  induction htext with
  | nil => rfl
  | cons hc _ ih => rw [units?_char hc, ih]; rfl

theorem unescape_spelled {chars text : List Char} (htext : Spelled chars text) :
    unescape [] text = .ok chars := by
  have hvalue := toOption_unescape [] text
  rw [units?_spelled htext, Option.bind_some, List.nil_append, Text.decodeUnits_encodeUnits]
    at hvalue
  cases hresult : unescape [] text <;> simp_all [Except.toOption]

/-! ## Where a spelling ends -/

/-- Every special character has a backslash before it, and no line break has. -/
inductive Guarded : List Char → Prop where
  | nil : Guarded []
  | plain {c : Char} {text : List Char} (hc : c ∉ specials) (hrest : Guarded text) :
      Guarded (c :: text)
  | escaped {c : Char} {text : List Char} (hc : c ∉ lineBreaks) (hrest : Guarded text) :
      Guarded ('\\' :: c :: text)

theorem Guarded.unit {unit : Nat} {token text : List Char} (htoken : SpellsUnit unit token)
    (hrest : Guarded text) : Guarded (token ++ text) := by
  obtain ⟨ha, hb, hc, hd⟩ := htoken
  refine .escaped (by decide) ?_
  refine .plain (not_special_of_spellsDigit ha) (.plain (not_special_of_spellsDigit hb) ?_)
  exact .plain (not_special_of_spellsDigit hc) (.plain (not_special_of_spellsDigit hd) hrest)

theorem Guarded.char {c : Char} {token text : List Char} (htoken : SpellsChar c token)
    (hrest : Guarded text) : Guarded (token ++ text) := by
  cases htoken with
  | raw hc => exact .plain hc hrest
  | tab | lineFeed | carriageReturn | formFeed => exact .escaped (by decide) hrest
  | itself hc => exact .escaped (fun hmem => hc (by simp_all [lineBreaks])) hrest
  | unit _ htext => exact .unit htext hrest
  | units _ hfirst hsecond =>
      rw [List.append_assoc]
      exact .unit hfirst (.unit hsecond hrest)

theorem Spelled.guarded {chars text : List Char} (htext : Spelled chars text) : Guarded text := by
  induction htext with
  | nil => exact .nil
  | cons hc _ ih => exact .char hc ih

theorem Guarded.head_not_mem {c : Char} {text : List Char} (htext : Guarded (c :: text)) :
    c ∉ layoutMarks := by
  cases htext with
  | plain hc => exact fun hmem => hc (List.mem_cons_of_mem _ hmem)
  | escaped => decide

theorem SpellsChar.ne_nil {c : Char} {token : List Char} (htoken : SpellsChar c token) :
    token ≠ [] := by
  cases htoken with
  | unit _ htext => cases htext; simp
  | units _ hfirst => cases hfirst; simp
  | _ => simp

theorem isGap_iff {c : Char} : isGap c = true ↔ c ∈ blanks := by
  simp [isGap, blanks, or_assoc]

theorem endsKey_iff {c : Char} : endsKey c = true ↔ c ∈ signs ++ blanks := by
  simp [endsKey, isGap, signs, blanks, or_assoc]

theorem splitKey_plain {c : Char} (hc : c ∉ specials) (rest : List Char) :
    splitKey (c :: rest) = (c :: (splitKey rest).1, (splitKey rest).2) := by
  have hescape : c ≠ '\\' := by
    rintro rfl
    exact hc (by decide)
  have hends : ¬ endsKey c = true := by
    have hsubset : signs ++ blanks ⊆ specials := by decide
    exact fun hends => hc (hsubset (endsKey_iff.mp hends))
  cases rest <;> simp [splitKey, hescape, hends]

theorem splitKey_ends {c : Char} (hc : c ∈ signs ++ blanks) (rest : List Char) :
    splitKey (c :: rest) = ([], c :: rest) := by
  have hescape : c ≠ '\\' := by
    rintro rfl
    exact absurd hc (by decide)
  cases rest <;> simp [splitKey, hescape, endsKey_iff.mpr hc]

theorem splitKey_guarded {text : List Char} (htext : Guarded text) (rest : List Char) :
    splitKey (text ++ rest) = (text ++ (splitKey rest).1, (splitKey rest).2) := by
  induction htext with
  | nil => rfl
  | plain hc _ ih => rw [List.cons_append, splitKey_plain hc, ih]; rfl
  | escaped _ _ ih => simp [splitKey, ih]

theorem Separates.subset {key separator : List Char} (hseparator : Separates key separator) :
    separator ⊆ signs ++ blanks := by
  have hblanks : blanks ⊆ signs ++ blanks := List.subset_append_right signs blanks
  cases hseparator with
  | sign hbefore hc hafter =>
      refine List.append_subset.mpr ⟨List.Subset.trans hbefore hblanks, ?_⟩
      exact List.cons_subset.mpr
        ⟨List.mem_append_left _ hc, List.Subset.trans hafter hblanks⟩
  | blank _ htext => exact List.Subset.trans htext hblanks

theorem Separates.ne_nil {key separator : List Char} (hseparator : Separates key separator) :
    separator ≠ [] := by
  cases hseparator with
  | sign => simp
  | blank _ _ hne => exact hne

theorem splitKey_separator {key separator : List Char} (hseparator : Separates key separator)
    (rest : List Char) : splitKey (separator ++ rest) = ([], separator ++ rest) := by
  obtain ⟨c, after, rfl⟩ := List.exists_cons_of_ne_nil hseparator.ne_nil
  exact splitKey_ends (hseparator.subset List.mem_cons_self) (after ++ rest)

theorem dropWhile_blanks {text : List Char} (htext : text ⊆ blanks) (rest : List Char) :
    (text ++ rest).dropWhile isGap = rest.dropWhile isGap :=
  List.dropWhile_append_of_pos fun _ hmem => isGap_iff.mpr (htext hmem)

theorem Guarded.dropWhile_eq {text : List Char} (htext : Guarded text) :
    text.dropWhile isGap = text := by
  cases text with
  | nil => rfl
  | cons c rest =>
      have hsubset : blanks ⊆ layoutMarks := by decide
      have hgap : ¬ isGap c = true := fun hgap => htext.head_not_mem (hsubset (isGap_iff.mp hgap))
      exact List.dropWhile_cons_of_neg hgap

theorem dropSeparator_separator {key separator value : List Char}
    (hseparator : Separates key separator) (hvalue : Guarded value) :
    dropSeparator (separator ++ value) = value := by
  unfold dropSeparator
  cases hseparator with
  | @sign before after c hbefore hc hafter =>
      rw [List.append_assoc, dropWhile_blanks hbefore]
      have hcases : c = '=' ∨ c = ':' := by simpa [signs] using hc
      rcases hcases with rfl | rfl <;>
        simp [isGap, dropWhile_blanks hafter, hvalue.dropWhile_eq]
  | blank _ htext =>
      rw [dropWhile_blanks htext, hvalue.dropWhile_eq]
      cases value with
      | nil => rfl
      | cons c rest =>
          have hc := hvalue.head_not_mem
          split <;> simp_all [layoutMarks, signs]

/-- A logical line is read as the key and the value that it spells. -/
theorem entry_of_spelled {key value : String} {keyText separator valueText : List Char}
    (hkey : Spelled key.toList keyText) (hseparator : Separates key.toList separator)
    (hvalue : Spelled value.toList valueText) :
    entry (keyText ++ separator ++ valueText) = .ok (key, value) := by
  have hsplit : splitKey (keyText ++ separator ++ valueText) =
      (keyText, separator ++ valueText) := by
    rw [List.append_assoc, splitKey_guarded hkey.guarded, splitKey_separator hseparator,
      List.append_nil]
  simp only [entry, hsplit, dropSeparator_separator hseparator hvalue.guarded,
    unescape_spelled hkey, unescape_spelled hvalue]
  change Except.ok (String.ofList key.toList, String.ofList value.toList) = _
  rw [String.ofList_toList, String.ofList_toList]

end MemberDiscovery.PropertyText
