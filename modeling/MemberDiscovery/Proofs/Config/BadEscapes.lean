import MemberDiscovery.Proofs.Config.Parts

/-! # Which escapes are bad

A `\uXXXX` escape is bad if it lacks its digits, or if the run of adjacent escapes that it belongs
to is not what any text is in UTF-16. Main statements: the escapes of a key or a value cannot be
undone exactly if one of them is bad (`unescape_error_iff`), and otherwise undoing them gives what
the key or the value stands for (`unescape_ok_iff`).
-/

namespace MemberDiscovery

namespace Text

theorem toNat_ofNat_of_isValidChar {code : Nat} (hvalid : code.isValidChar) :
    (Char.ofNat code).toNat = code := by
  rw [Char.ofNat, dif_pos hvalid]
  exact UInt32.toNat_ofNatLT

theorem unitsOf_ofNat {unit : Nat} (hunit : unit < 0x10000)
    (hscalar : (isHighSurrogate unit || isLowSurrogate unit) = false) :
    unitsOf (Char.ofNat unit) = [unit] := by
  have hvalid : unit.isValidChar := by
    simp only [isHighSurrogate, isLowSurrogate, Bool.or_eq_false_iff, Bool.and_eq_false_iff,
      decide_eq_false_iff_not] at hscalar
    simp only [Nat.isValidChar]
    omega
  rw [unitsOf, toNat_ofNat_of_isValidChar hvalid, if_pos hunit]

theorem unitsOf_pairChar {high low : Nat} (hhigh : isHighSurrogate high = true)
    (hlow : isLowSurrogate low = true) : unitsOf (pairChar high low) = [high, low] := by
  simp only [isHighSurrogate, isLowSurrogate, Bool.and_eq_true, decide_eq_true_eq] at hhigh hlow
  have hvalid : (0x10000 + (high - 0xD800) * 0x400 + (low - 0xDC00)).isValidChar := by
    simp only [Nat.isValidChar]
    omega
  have hfirst : 0xD800 + (0x10000 + (high - 0xD800) * 0x400 + (low - 0xDC00) - 0x10000) / 0x400 =
      high := by omega
  have hsecond : 0xDC00 + (0x10000 + (high - 0xD800) * 0x400 + (low - 0xDC00) - 0x10000) % 0x400 =
      low := by omega
  rw [unitsOf, pairChar, toNat_ofNat_of_isValidChar hvalid, if_neg (by omega), hfirst, hsecond]

/-- What units are decoded to is encoded by them. -/
theorem encodeUnits_of_decodeUnits {units : List Nat} {chars : List Char}
    (hunits : ∀ unit ∈ units, unit < 0x10000) (hchars : decodeUnits units = some chars) :
    encodeUnits chars = units := by
  induction units using decodeUnits.induct generalizing chars with
  | case1 =>
      cases hchars
      rfl
  | case2 unit hsurrogate => simp [decodeUnits, hsurrogate] at hchars
  | case3 unit hscalar =>
      rw [Bool.not_eq_true] at hscalar
      rw [decodeUnits_scalar hscalar, decodeUnits] at hchars
      obtain rfl := Option.some.inj hchars
      simpa [encodeUnits] using unitsOf_ofNat (hunits unit List.mem_cons_self) hscalar
  | case4 unit next rest hhigh hlow ih =>
      obtain ⟨-, -, hrest⟩ : unit < 0x10000 ∧ next < 0x10000 ∧ ∀ unit ∈ rest, unit < 0x10000 := by
        simpa using hunits
      rw [decodeUnits, if_pos hhigh, if_pos hlow, Option.map_eq_some_iff] at hchars
      obtain ⟨more, hmore, rfl⟩ := hchars
      rw [encodeUnits, List.flatMap_cons, unitsOf_pairChar hhigh hlow, ← encodeUnits,
        ih hrest hmore]
      rfl
  | case5 unit next rest hhigh hlow => simp [decodeUnits, hhigh, hlow] at hchars
  | case6 unit next rest hhigh hlow => simp [decodeUnits_low hlow] at hchars
  | case7 unit next rest hhigh hlow ih =>
      obtain ⟨hunit, hrest⟩ := List.forall_mem_cons.mp hunits
      have hscalar : (isHighSurrogate unit || isLowSurrogate unit) = false := by simp [hhigh, hlow]
      rw [decodeUnits_scalar hscalar, Option.map_eq_some_iff] at hchars
      obtain ⟨more, hmore, rfl⟩ := hchars
      rw [encodeUnits, List.flatMap_cons, unitsOf_ofNat hunit hscalar, ← encodeUnits,
        ih hrest hmore]
      rfl

end Text

namespace PropertyText

/-! ## What stands in a key or a value -/

/-- A character that stands for itself or has a backslash before it, with what it stands for. -/
inductive CharToken : List Char → Char → Prop where
  | plain {c : Char} (hc : c ≠ '\\') : CharToken [c] c
  | escaped {c : Char} (hc : c ≠ 'u') : CharToken ['\\', c] (escapedChar c)

/-- Adjacent `\uXXXX` escapes. -/
inductive SpellsUnits : List Nat → List Char → Prop where
  | nil : SpellsUnits [] []
  | cons {unit : Nat} {units : List Nat} {token text : List Char} (htoken : SpellsUnit unit token)
      (hrest : SpellsUnits units text) : SpellsUnits (unit :: units) (token ++ text)

/-- A `\uXXXX` escape stands at the beginning. -/
def BeginsWithUnit (text : List Char) : Prop :=
  ∃ unit token rest, SpellsUnit unit token ∧ text = token ++ rest

/-- A `\uXXXX` escape stands at the end. -/
def EndsInUnit (text : List Char) : Prop :=
  ∃ unit before token, SpellsUnit unit token ∧ text = before ++ token ∧ ¬ Escapes before

/-- An escape without four hexadecimal digits, or a run of adjacent escapes that is as long as can
be and is not what any text is in UTF-16. -/
inductive BadEscape : List Char → Prop where
  | digits {before after : List Char} (hbefore : ¬ Escapes before)
      (hdigits : ¬ BeginsWithUnit ('\\' :: 'u' :: after)) :
      BadEscape (before ++ '\\' :: 'u' :: after)
  | run {before run after : List Char} {units : List Nat} (hbefore : ¬ Escapes before)
      (hfirst : ¬ EndsInUnit before) (hrun : SpellsUnits units run) (hlast : ¬ BeginsWithUnit after)
      (hunits : ∀ chars, Text.encodeUnits chars ≠ units) : BadEscape (before ++ (run ++ after))

/-- What is read at once, with the units that it stands for. -/
inductive Token : List Char → List Nat → Prop where
  | char {token : List Char} {c : Char} (htoken : CharToken token c) : Token token (Text.unitsOf c)
  | unit {token : List Char} {unit : Nat} (htoken : SpellsUnit unit token) : Token token [unit]

/-- What a key or a value stands for. -/
inductive Reads : List Char → List Char → Prop where
  | nil : Reads [] []
  | char {token part text : List Char} {c : Char} (htoken : CharToken token c)
      (hrest : Reads part text) : Reads (token ++ part) (c :: text)
  | run {units : List Nat} {run chars part text : List Char} (hrun : SpellsUnits units run)
      (hunits : Text.encodeUnits chars = units) (hrest : Reads part text) :
      Reads (run ++ part) (chars ++ text)

/-! ## Digits -/

theorem spellsDigit_of_digit? {c : Char} {digit : Nat} (hc : Integer.digit? c = some digit) :
    SpellsDigit digit c := by
  have hascii : ∀ code : Fin 128, ∀ digit ∈ Integer.digit? (Char.ofNat code),
      lowerDigits[digit]? = some (Char.ofNat code) ∨
        upperDigits[digit]? = some (Char.ofNat code) := by
    decide +kernel
  by_cases hcode : c.toNat < 128
  · have hdigit := hascii ⟨c.toNat, hcode⟩ digit
    rw [Char.ofNat_toNat] at hdigit
    exact hdigit hc
  · have hlarge : ∀ bound : Char, bound.toNat < 128 → ¬ c ≤ bound := by
      intro bound hbound hle
      have hle : c.toNat ≤ bound.toNat := hle
      omega
    simp [Integer.digit?, hlarge '9' (by decide), hlarge 'f' (by decide),
      hlarge 'F' (by decide)] at hc

theorem spellsDigit_of_readDigits? {sofar value : Nat} {c : Char} {rest : List Char}
    (hread : Integer.readDigits? 16 sofar (c :: rest) = some value) :
    ∃ digit, SpellsDigit digit c ∧
      Integer.readDigits? 16 (sofar * 16 + digit) rest = some value := by
  rw [Integer.readDigits?] at hread
  split at hread
  next digit hdigit =>
    split at hread
    · exact ⟨digit, spellsDigit_of_digit? hdigit, hread⟩
    · cases hread
  next => cases hread

theorem spellsUnit_of_readDigits? {a b c d : Char} {unit : Nat}
    (hread : Integer.readDigits? 16 0 [a, b, c, d] = some unit) :
    SpellsUnit unit ['\\', 'u', a, b, c, d] := by
  obtain ⟨first, ha, hread⟩ := spellsDigit_of_readDigits? hread
  obtain ⟨second, hb, hread⟩ := spellsDigit_of_readDigits? hread
  obtain ⟨third, hc, hread⟩ := spellsDigit_of_readDigits? hread
  obtain ⟨fourth, hd, hread⟩ := spellsDigit_of_readDigits? hread
  rw [Nat.zero_mul, Nat.zero_add] at hread
  obtain rfl := Option.some.inj hread
  exact .digits ha hb hc hd

/-! ## Tokens -/

/-- The only backslash of a `\uXXXX` escape is its first character. -/
theorem SpellsUnit.exists_eq {unit : Nat} {token : List Char} (htoken : SpellsUnit unit token) :
    ∃ digits, token = '\\' :: 'u' :: digits ∧ digits.length = 4 ∧ '\\' ∉ digits := by
  obtain ⟨ha, hb, hc, hd⟩ := htoken
  have hdigit : ∀ {digit : Nat} {c : Char}, SpellsDigit digit c → '\\' ≠ c := by
    rintro digit c hc rfl
    exact not_special_of_spellsDigit hc (by decide)
  exact ⟨_, rfl, rfl, by simp [hdigit ha, hdigit hb, hdigit hc, hdigit hd]⟩

/-- An escape has no second backslash. -/
theorem SpellsUnit.eq_nil_of_append {front more : List Char} {unit : Nat}
    (htoken : SpellsUnit unit (front ++ '\\' :: more)) : front = [] := by
  cases front with
  | nil => rfl
  | cons first front =>
      obtain ⟨digits, hdigits, -, hnone⟩ := htoken.exists_eq
      have hsecond : '\\' ∈ 'u' :: digits := by
        rw [← (List.cons.inj hdigits).2]
        exact List.mem_append_right _ List.mem_cons_self
      simp [hnone] at hsecond

theorem SpellsUnit.not_escapes {unit : Nat} {token : List Char} (htoken : SpellsUnit unit token) :
    ¬ Escapes token := by
  obtain ⟨digits, rfl, -, hdigits⟩ := htoken.exists_eq
  exact mt escapes_cons_cons.mp (not_escapes_of_not_mem hdigits)

theorem SpellsUnit.lt {unit : Nat} {token : List Char} (htoken : SpellsUnit unit token) :
    unit < 0x10000 := by
  obtain ⟨ha, hb, hc, hd⟩ := htoken
  have hlta := (digit?_of_spellsDigit ha).2
  have hltb := (digit?_of_spellsDigit hb).2
  have hltc := (digit?_of_spellsDigit hc).2
  have hltd := (digit?_of_spellsDigit hd).2
  omega

theorem CharToken.not_escapes {token : List Char} {c : Char} (htoken : CharToken token c) :
    ¬ Escapes token := by
  cases htoken with
  | plain hc => exact mt (escapes_cons hc).mp not_escapes_nil
  | escaped => exact mt escapes_cons_cons.mp not_escapes_nil

theorem CharToken.not_beginsWithUnit {token : List Char} {c : Char} (htoken : CharToken token c)
    (rest : List Char) : ¬ BeginsWithUnit (token ++ rest) := by
  rintro ⟨unit, spelled, after, hspelled, heq⟩
  obtain ⟨digits, rfl, -, -⟩ := hspelled.exists_eq
  cases htoken with
  | plain hc => exact hc (List.cons.inj heq).1
  | escaped hc => exact hc (List.cons.inj (List.cons.inj heq).2).1

theorem not_beginsWithUnit_of_length {text : List Char} (htext : text.length < 6) :
    ¬ BeginsWithUnit text := by
  rintro ⟨unit, token, rest, htoken, rfl⟩
  obtain ⟨digits, rfl, hlength, -⟩ := htoken.exists_eq
  simp only [List.length_append, List.length_cons, hlength] at htext
  omega

theorem units?_charToken {token : List Char} {c : Char} (htoken : CharToken token c)
    (rest : List Char) :
    units? (token ++ rest) = (units? rest).map (Text.unitsOf c ++ ·) := by
  cases htoken with
  | plain hc => exact units?_raw hc rest
  | escaped hc => simp [units?, hc, unitsOf_escapedChar]

theorem units?_units {units : List Nat} {run : List Char} (hrun : SpellsUnits units run)
    (rest : List Char) : units? (run ++ rest) = (units? rest).map (units ++ ·) := by
  induction hrun with
  | nil => simp
  | cons htoken _ ih =>
      rw [List.append_assoc, units?_unit htoken, ih, Option.map_map]
      rfl

theorem Token.not_escapes {token : List Char} {units : List Nat} (htoken : Token token units) :
    ¬ Escapes token := by
  cases htoken with
  | char htoken => exact htoken.not_escapes
  | unit htoken => exact htoken.not_escapes

theorem units?_token {token : List Char} {units : List Nat} (htoken : Token token units)
    (rest : List Char) : units? (token ++ rest) = (units? rest).map (units ++ ·) := by
  cases htoken with
  | char htoken => exact units?_charToken htoken rest
  | unit htoken => exact units?_unit htoken rest

theorem units?_bad {after : List Char} (hdigits : ¬ BeginsWithUnit ('\\' :: 'u' :: after)) :
    units? ('\\' :: 'u' :: after) = none := by
  match after with
  | [] | [_] | [_, _] | [_, _, _] => rfl
  | a :: b :: c :: d :: rest =>
      rw [units?]
      cases hread : Integer.readDigits? 16 0 [a, b, c, d] with
      | none => rfl
      | some unit =>
          exact absurd ⟨unit, _, rest, spellsUnit_of_readDigits? hread, rfl⟩ hdigits

/-- A key or a value is read token by token, up to a backslash at its end or an escape without its
digits. -/
theorem part_induction {motive : List Char → Prop} (nil : motive []) (dangling : motive ['\\'])
    (bad : ∀ after, ¬ BeginsWithUnit ('\\' :: 'u' :: after) → motive ('\\' :: 'u' :: after))
    (token : ∀ text units rest, Token text units → motive rest → motive (text ++ rest))
    (part : List Char) : motive part := by
  induction hlength : part.length using Nat.strongRecOn generalizing part with
  | ind length ih =>
      have hread : ∀ (text rest : List Char) units, Token text units → text ≠ [] →
          part = text ++ rest → motive part := by
        rintro text rest units htoken hne rfl
        refine token text units rest htoken (ih rest.length ?_ rest rfl)
        rw [← hlength, List.length_append]
        exact Nat.lt_add_of_pos_left (List.length_pos_iff.mpr hne)
      by_cases hdigits : BeginsWithUnit part
      · obtain ⟨unit, text, rest, htoken, hpart⟩ := hdigits
        have hne : text ≠ [] := by
          obtain ⟨digits, rfl, -⟩ := htoken.exists_eq
          simp
        exact hread text rest [unit] (.unit htoken) hne hpart
      · match part with
        | [] => exact nil
        | c :: rest =>
            by_cases hc : c = '\\'
            · subst hc
              match rest with
              | [] => exact dangling
              | c :: rest =>
                  by_cases hu : c = 'u'
                  · subst hu
                    exact bad rest hdigits
                  · exact hread ['\\', c] rest _ (.char (.escaped hu)) (by simp) rfl
            · exact hread [c] rest _ (.char (.plain hc)) (by simp) rfl

/-! ## Escapes without digits -/

theorem beginsWithUnit_of_append {front rest : List Char} (hfront : front ≠ [])
    (hunit : BeginsWithUnit (front ++ '\\' :: rest)) : BeginsWithUnit front := by
  obtain ⟨unit, token, after, htoken, heq⟩ := hunit
  rcases List.append_eq_append_iff.mp heq with ⟨more, rfl, hmore⟩ | ⟨more, rfl, -⟩
  · cases more with
    | nil => exact ⟨unit, front, [], by simpa using htoken, by simp⟩
    | cons c more =>
        obtain ⟨rfl, -⟩ := List.cons.inj hmore
        exact absurd htoken.eq_nil_of_append hfront
  · exact ⟨unit, token, more, htoken, rfl⟩

/-- A part that ends where an escape begins is read by itself. -/
theorem units?_append {before : List Char} (hbefore : ¬ Escapes before) (rest : List Char) :
    units? (before ++ '\\' :: rest) =
      (units? before).bind fun units => (units? ('\\' :: rest)).map (units ++ ·) := by
  induction before using part_induction with
  | nil => simp [units?]
  | dangling => exact absurd (escapes_iff.mpr rfl) hbefore
  | bad after hdigits =>
      have hstill : ¬ BeginsWithUnit ('\\' :: 'u' :: (after ++ '\\' :: rest)) :=
        fun hunit => hdigits (beginsWithUnit_of_append (List.cons_ne_nil _ _) hunit)
      rw [units?_bad hdigits, List.cons_append, List.cons_append, units?_bad hstill]
      rfl
  | token token units before htoken ih =>
      rw [escapes_append htoken.not_escapes] at hbefore
      rw [List.append_assoc, units?_token htoken, ih hbefore, units?_token htoken]
      cases units? before <;> simp [Function.comp_def]

/-- Units are missing if and only if an escape lacks its digits. -/
theorem units?_eq_none_iff {part : List Char} :
    units? part = none ↔ ∃ before after, part = before ++ '\\' :: 'u' :: after ∧
      ¬ Escapes before ∧ ¬ BeginsWithUnit ('\\' :: 'u' :: after) := by
  constructor
  · intro hnone
    induction part using part_induction with
    | nil | dangling => cases hnone
    | bad after hdigits => exact ⟨[], after, rfl, not_escapes_nil, hdigits⟩
    | token token units rest htoken ih =>
        rw [units?_token htoken, Option.map_eq_none_iff] at hnone
        obtain ⟨before, after, rfl, hbefore, hdigits⟩ := ih hnone
        refine ⟨token ++ before, after, (List.append_assoc ..).symm, ?_, hdigits⟩
        rwa [escapes_append htoken.not_escapes]
  · rintro ⟨before, after, rfl, hbefore, hdigits⟩
    rw [units?_append hbefore, units?_bad hdigits]
    cases units? before <;> rfl

/-! ## Runs of escapes -/

theorem SpellsUnits.lt {units : List Nat} {run : List Char} (hrun : SpellsUnits units run) :
    ∀ unit ∈ units, unit < 0x10000 := by
  induction hrun with
  | nil => simp
  | cons htoken _ ih => exact List.forall_mem_cons.mpr ⟨htoken.lt, ih⟩

/-- Units are text if and only if they are what some text is in UTF-16. -/
theorem SpellsUnits.decodeUnits_eq_some_iff {units : List Nat} {run : List Char}
    (hrun : SpellsUnits units run) {chars : List Char} :
    Text.decodeUnits units = some chars ↔ Text.encodeUnits chars = units := by
  constructor
  · exact Text.encodeUnits_of_decodeUnits hrun.lt
  · rintro rfl
    exact Text.decodeUnits_encodeUnits chars

theorem not_endsInUnit_of_length {text : List Char} (htext : text.length < 6) :
    ¬ EndsInUnit text := by
  rintro ⟨unit, before, token, htoken, rfl, -⟩
  obtain ⟨digits, rfl, hlength, -⟩ := htoken.exists_eq
  simp only [List.length_append, List.length_cons, hlength] at htext
  omega

theorem CharToken.not_endsInUnit {token : List Char} {c : Char} (htoken : CharToken token c) :
    ¬ EndsInUnit token := by
  refine not_endsInUnit_of_length ?_
  cases htoken <;> simp

/-- What is read at once has no further escape in it. -/
theorem Token.eq_nil_of_append {front more : List Char} {units : List Nat}
    (htoken : Token (front ++ '\\' :: more) units) (hfront : ¬ Escapes front) : front = [] := by
  cases front with
  | nil => rfl
  | cons first front =>
      generalize htext : first :: front ++ '\\' :: more = text at htoken
      cases htoken with
      | char htoken =>
          cases htoken with
          | plain => simp at htext
          | escaped =>
              obtain ⟨rfl, hrest⟩ := List.cons.inj htext
              obtain ⟨rfl, -⟩ := List.append_eq_singleton_iff.mp hrest |>.resolve_right (by simp)
              exact absurd (escapes_iff.mpr rfl) hfront
      | unit htoken =>
          subst htext
          exact htoken.eq_nil_of_append

/-- What is read first makes no difference to how the rest ends. -/
theorem endsInUnit_append {token rest : List Char} {units : List Nat} (htoken : Token token units)
    (hrest : rest ≠ []) : EndsInUnit (token ++ rest) ↔ EndsInUnit rest := by
  constructor
  · rintro ⟨unit, before, spelled, hspelled, heq, hbefore⟩
    rcases List.append_eq_append_iff.mp heq with ⟨more, rfl, rfl⟩ | ⟨more, rfl, rfl⟩
    · rw [escapes_append htoken.not_escapes] at hbefore
      exact ⟨unit, more, spelled, hspelled, rfl, hbefore⟩
    · cases more with
      | nil => exact ⟨unit, [], rest, hspelled, rfl, not_escapes_nil⟩
      | cons c more =>
          -- The escape at the end would have begun with the token.
          obtain ⟨digits, hdigits, hlength, -⟩ := hspelled.exists_eq
          obtain ⟨rfl, -⟩ := List.cons.inj hdigits
          obtain rfl := htoken.eq_nil_of_append hbefore
          cases htoken with
          | char htoken =>
              exact absurd ⟨unit, _, [], hspelled, by simp⟩ (htoken.not_beginsWithUnit rest)
          | unit htoken =>
              obtain ⟨others, hothers, hothersLength, -⟩ := htoken.exists_eq
              have hlong := congrArg List.length hdigits
              have hshort := congrArg List.length hothers
              have hpos := List.length_pos_iff.mpr hrest
              simp at hlong hshort
              omega
  · rintro ⟨unit, before, spelled, hspelled, rfl, hbefore⟩
    refine ⟨unit, token ++ before, spelled, hspelled, (List.append_assoc ..).symm, ?_⟩
    rwa [escapes_append htoken.not_escapes]

/-- The last character before a run of escapes that has just begun. -/
theorem exists_last {before : List Char} {units : List Nat} (hbefore : ¬ Escapes before)
    (hfirst : ¬ EndsInUnit before) (hunits : units? before = some units) :
    before = [] ∨ ∃ front c, units = front ++ Text.unitsOf c := by
  induction before using part_induction generalizing units with
  | nil => exact .inl rfl
  | dangling => exact absurd (escapes_iff.mpr rfl) hbefore
  | bad after hdigits => rw [units?_bad hdigits] at hunits; cases hunits
  | token token first rest htoken ih =>
      rw [escapes_append htoken.not_escapes] at hbefore
      rw [units?_token htoken, Option.map_eq_some_iff] at hunits
      obtain ⟨more, hmore, rfl⟩ := hunits
      refine .inr ?_
      by_cases hrest : rest = []
      · subst hrest
        cases hmore
        cases htoken with
        | @char c htoken => exact ⟨[], c, by simp⟩
        | unit htoken => exact absurd ⟨_, [], token, htoken, by simp, not_escapes_nil⟩ hfirst
      · rw [endsInUnit_append htoken hrest] at hfirst
        obtain ⟨front, c, rfl⟩ := (ih hbefore hfirst hmore).resolve_left hrest
        exact ⟨first ++ front, c, by simp⟩

/-- The first character after a run of escapes that has ended. -/
theorem exists_first {after : List Char} {units : List Nat} (hlast : ¬ BeginsWithUnit after)
    (hunits : units? after = some units) :
    units = [] ∨ ∃ c rest, units = Text.unitsOf c ++ rest := by
  cases after using part_induction with
  | nil | dangling => exact .inl (Option.some.inj hunits).symm
  | bad after hdigits => rw [units?_bad hdigits] at hunits; cases hunits
  | token token first rest htoken =>
      rw [units?_token htoken, Option.map_eq_some_iff] at hunits
      obtain ⟨more, -, rfl⟩ := hunits
      cases htoken with
      | char htoken => exact .inr ⟨_, more, rfl⟩
      | unit htoken => exact absurd ⟨_, token, rest, htoken, rfl⟩ hlast

theorem decodeUnits_of_append_unitsOf {before after : List Nat} {c : Char} {chars : List Char}
    (hchars : Text.decodeUnits (before ++ (Text.unitsOf c ++ after)) = some chars) :
    ∃ front back, Text.decodeUnits before = some front ∧ Text.decodeUnits after = some back ∧
      chars = front ++ c :: back := by
  rw [Text.decodeUnits_append_unitsOf, Option.bind_eq_some_iff] at hchars
  obtain ⟨front, hfront, hchars⟩ := hchars
  obtain ⟨back, hback, rfl⟩ := Option.map_eq_some_iff.mp hchars
  exact ⟨front, back, hfront, hback, rfl⟩

/-- Characters on both sides part a run from everything else, so it is text if everything is. -/
theorem exists_decodeUnits_run {before run after chars : List Char} {units all : List Nat}
    (hbefore : ¬ Escapes before) (hfirst : ¬ EndsInUnit before) (hrun : SpellsUnits units run)
    (hlast : ¬ BeginsWithUnit after) (hall : units? (before ++ (run ++ after)) = some all)
    (hchars : Text.decodeUnits all = some chars) : ∃ text, Text.decodeUnits units = some text := by
  have hread := units?_units hrun after
  cases hrun with
  | nil => exact ⟨[], rfl⟩
  | @cons unit units token run htoken hrun =>
      generalize unit :: units = units at hread
      obtain ⟨digits, rfl, -, -⟩ := htoken.exists_eq
      rw [List.cons_append, List.cons_append] at hall hread
      rw [units?_append hbefore, hread, Option.bind_eq_some_iff] at hall
      obtain ⟨front, hfront, hall⟩ := hall
      obtain ⟨_, hmore, rfl⟩ := Option.map_eq_some_iff.mp hall
      obtain ⟨back, hback, rfl⟩ := Option.map_eq_some_iff.mp hmore
      obtain ⟨rest, hrest⟩ : ∃ rest, Text.decodeUnits (units ++ back) = some rest := by
        rcases exists_last hbefore hfirst hfront with rfl | ⟨front, c, rfl⟩
        · cases hfront
          exact ⟨chars, hchars⟩
        · rw [List.append_assoc] at hchars
          obtain ⟨-, rest, -, hrest, -⟩ := decodeUnits_of_append_unitsOf hchars
          exact ⟨rest, hrest⟩
      rcases exists_first hlast hback with rfl | ⟨c, back, rfl⟩
      · exact ⟨rest, by simpa using hrest⟩
      · obtain ⟨text, -, htext, -, -⟩ := decodeUnits_of_append_unitsOf hrest
        exact ⟨text, htext⟩

/-- After some units, a run of escapes stands at a place of a part that is no text together with
them. -/
def BadRun (pending : List Nat) (before part : List Char) : Prop :=
  ∃ run after units, part = before ++ (run ++ after) ∧ ¬ Escapes before ∧ ¬ EndsInUnit before ∧
    SpellsUnits units run ∧ ¬ BeginsWithUnit after ∧ Text.decodeUnits (pending ++ units) = none

theorem BadRun.append {token before part : List Char} {first : List Nat}
    (htoken : Token token first) (hne : before ≠ []) (hbad : BadRun [] before part) :
    BadRun [] (token ++ before) (token ++ part) := by
  obtain ⟨run, after, units, rfl, hbefore, hfirst, hrun, hlast, hunits⟩ := hbad
  rw [← escapes_append htoken.not_escapes] at hbefore
  rw [← endsInUnit_append htoken hne] at hfirst
  exact ⟨run, after, units, by simp, hbefore, hfirst, hrun, hlast, hunits⟩

/-- Where no escape begins, the run that ends there is empty. -/
theorem BadRun.of_not_beginsWithUnit {pending : List Nat} {part : List Char}
    (hpart : ¬ BeginsWithUnit part) (hpending : Text.decodeUnits pending = none) :
    BadRun pending [] part :=
  ⟨[], part, [], rfl, not_escapes_nil, not_endsInUnit_of_length (by simp), .nil, hpart,
    by simpa using hpending⟩

/-- If units are no text, then because of the run that goes on at the beginning or of a later
one. -/
theorem exists_badRun {part : List Char} {pending units : List Nat}
    (hunits : units? part = some units) (hbad : Text.decodeUnits (pending ++ units) = none) :
    BadRun pending [] part ∨ ∃ before, before ≠ [] ∧ BadRun [] before part := by
  induction part using part_induction generalizing pending units with
  | nil =>
      cases hunits
      rw [List.append_nil] at hbad
      exact .inl (.of_not_beginsWithUnit (not_beginsWithUnit_of_length (by simp)) hbad)
  | dangling =>
      cases hunits
      rw [List.append_nil] at hbad
      exact .inl (.of_not_beginsWithUnit (not_beginsWithUnit_of_length (by simp)) hbad)
  | bad after hdigits =>
      rw [units?_bad hdigits] at hunits
      cases hunits
  | token token first rest htoken ih =>
      rw [units?_token htoken, Option.map_eq_some_iff] at hunits
      obtain ⟨more, hmore, rfl⟩ := hunits
      have hlater : (∃ before, before ≠ [] ∧ BadRun [] before rest) →
          ∃ before, before ≠ [] ∧ BadRun [] before (token ++ rest) := by
        rintro ⟨before, hne, hbad⟩
        exact ⟨token ++ before, List.append_ne_nil_of_right_ne_nil token hne,
          hbad.append htoken hne⟩
      cases htoken with
      | unit hspelled =>
          rw [← List.append_assoc] at hbad
          refine (ih hmore hbad).imp ?_ hlater
          rintro ⟨run, after, units, hrest, -, -, hrun, hlast, hunits⟩
          refine ⟨token ++ run, after, _ :: units, by rw [hrest]; simp, not_escapes_nil,
            not_endsInUnit_of_length (by simp), .cons hspelled hrun, hlast, by simpa using hunits⟩
      | @char c htoken =>
          cases hpending : Text.decodeUnits pending with
          | none => exact .inl (.of_not_beginsWithUnit (htoken.not_beginsWithUnit rest) hpending)
          | some front =>
              rw [Text.decodeUnits_append_unitsOf, hpending, Option.bind_some,
                Option.map_eq_none_iff] at hbad
              refine .inr ?_
              rcases @ih [] _ hmore hbad with hfresh | hbad
              · obtain ⟨run, after, units, rfl, -, -, hrun, hlast, hunits⟩ := hfresh
                refine ⟨token, by cases htoken <;> simp, run, after, units, rfl,
                  htoken.not_escapes, htoken.not_endsInUnit, hrun, hlast, hunits⟩
              · exact hlater hbad

theorem BadRun.badEscape {before part : List Char} (hbad : BadRun [] before part) :
    BadEscape part := by
  obtain ⟨run, after, units, rfl, hbefore, hfirst, hrun, hlast, hunits⟩ := hbad
  refine .run hbefore hfirst hrun hlast fun chars hchars => ?_
  rw [List.nil_append, hrun.decodeUnits_eq_some_iff.mpr hchars] at hunits
  cases hunits

/-! ## Undoing escapes -/

theorem exists_error_iff {ε α : Type} {result : Except ε α} :
    (∃ error, result = .error error) ↔ result.toOption = none := by
  cases result <;> simp [Except.toOption]

theorem eq_ok_iff {ε α : Type} {result : Except ε α} {value : α} :
    result = .ok value ↔ result.toOption = some value := by
  cases result <;> simp [Except.toOption]

theorem unescape_error_iff {part : List Char} :
    (∃ error, unescape [] part = .error error) ↔ BadEscape part := by
  rw [exists_error_iff, toOption_unescape]
  constructor
  · intro hnone
    cases hunits : units? part with
    | none =>
        obtain ⟨before, after, rfl, hbefore, hdigits⟩ := units?_eq_none_iff.mp hunits
        exact .digits hbefore hdigits
    | some units =>
        rw [hunits] at hnone
        rcases exists_badRun hunits hnone with hbad | ⟨before, -, hbad⟩
        · exact hbad.badEscape
        · exact hbad.badEscape
  · intro hbad
    cases hunits : units? part with
    | none => rfl
    | some all =>
        cases hbad with
        | digits hbefore hdigits =>
            rw [units?_eq_none_iff.mpr ⟨_, _, rfl, hbefore, hdigits⟩] at hunits
            cases hunits
        | run hbefore hfirst hrun hlast hnot =>
            cases hchars : Text.decodeUnits all with
            | none => simpa using hchars
            | some chars =>
                obtain ⟨text, htext⟩ :=
                  exists_decodeUnits_run hbefore hfirst hrun hlast hunits hchars
                exact absurd (hrun.decodeUnits_eq_some_iff.mp htext) (hnot text)

theorem Reads.units?_eq {part text : List Char} (hpart : Reads part text) :
    units? part = some (Text.encodeUnits text) := by
  induction hpart with
  | nil => rfl
  | char htoken _ ih => rw [units?_charToken htoken, ih]; rfl
  | run hrun hunits _ ih =>
      rw [units?_units hrun, ih, ← hunits]
      simp [Text.encodeUnits]

/-- What units are decoded to is what a part stands for, after a run of escapes that goes on. -/
theorem exists_reads {part text : List Char} {pending units : List Nat} (hpart : ¬ Escapes part)
    (hunits : units? part = some units) (htext : Text.decodeUnits (pending ++ units) = some text) :
    ∃ run rest runUnits chars more, part = run ++ rest ∧ SpellsUnits runUnits run ∧
      Text.decodeUnits (pending ++ runUnits) = some chars ∧ Reads rest more ∧
        text = chars ++ more := by
  induction part using part_induction generalizing pending units text with
  | nil =>
      cases hunits
      exact ⟨[], [], [], text, [], rfl, .nil, htext, .nil, by simp⟩
  | dangling => exact absurd (escapes_iff.mpr rfl) hpart
  | bad after hdigits =>
      rw [units?_bad hdigits] at hunits
      cases hunits
  | token token first rest htoken ih =>
      rw [escapes_append htoken.not_escapes] at hpart
      rw [units?_token htoken, Option.map_eq_some_iff] at hunits
      obtain ⟨more, hmore, rfl⟩ := hunits
      cases htoken with
      | @unit unit hspelled =>
          rw [← List.append_assoc] at htext
          obtain ⟨run, rest, runUnits, chars, more, rfl, hrun, hchars, hrest, rfl⟩ :=
            ih hpart hmore htext
          exact ⟨token ++ run, rest, unit :: runUnits, chars, more, by simp, .cons hspelled hrun,
            by simpa using hchars, hrest, rfl⟩
      | @char c htoken =>
          obtain ⟨front, back, hfront, hback, rfl⟩ := decodeUnits_of_append_unitsOf htext
          obtain ⟨run, rest, runUnits, chars, more, rfl, hrun, hchars, hrest, rfl⟩ :=
            @ih _ [] _ hpart hmore hback
          have hreads : Reads (run ++ rest) (chars ++ more) :=
            .run hrun (hrun.decodeUnits_eq_some_iff.mp hchars) hrest
          exact ⟨[], _, [], front, _, rfl, .nil, by simpa using hfront, .char htoken hreads, rfl⟩

theorem unescape_ok_iff {part text : List Char} (hpart : ¬ Escapes part) :
    unescape [] part = .ok text ↔ Reads part text := by
  rw [eq_ok_iff, toOption_unescape]
  constructor
  · intro htext
    obtain ⟨units, hunits, htext⟩ := Option.bind_eq_some_iff.mp htext
    obtain ⟨run, rest, runUnits, chars, more, rfl, hrun, hchars, hrest, rfl⟩ :=
      exists_reads hpart hunits htext
    exact .run hrun (hrun.decodeUnits_eq_some_iff.mp hchars) hrest
  · intro hreads
    rw [hreads.units?_eq]
    exact Text.decodeUnits_encodeUnits text

end PropertyText

end MemberDiscovery
