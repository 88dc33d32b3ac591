import Mathlib.Data.List.Basic
import MemberDiscovery.Json.Document
import MemberDiscovery.Proofs.Number.Decimal

/-! # What is written is read

The compact text of a JSON value whose numbers are integers of 64 bits is read as the document of
that value (`Json.Document.parse?_render`). Behind the text of a value the reader goes on with what
stands there, as long as that cannot belong to a number; so the proof follows the value and needs
nothing of the rest of the text.
-/

namespace MemberDiscovery.Json

mutual

/-- Every number in the value is an integer of 64 bits, with or without a sign. -/
def Whole : Json → Prop
  | .number (.integer value) => Integer.minInt64 ≤ value ∧ value ≤ Integer.maxUInt64
  | .number (.real _) => False
  | .array items => WholeItems items
  | .object members => WholeMembers members
  | _ => True

def WholeItems : List Json → Prop
  | [] => True
  | item :: items => Whole item ∧ WholeItems items

def WholeMembers : List (String × Json) → Prop
  | [] => True
  | (_, value) :: members => Whole value ∧ WholeMembers members

end

theorem wholeItems_iff {items : List Json} : WholeItems items ↔ ∀ item ∈ items, Whole item := by
  induction items with
  | nil => simp [WholeItems]
  | cons item rest ih => simp [WholeItems, ih]

theorem wholeMembers_iff {members : List (String × Json)} :
    WholeMembers members ↔ ∀ entry ∈ members, Whole entry.2 := by
  induction members with
  | nil => simp [WholeMembers]
  | cons entry rest ih => simp [WholeMembers, ih]

namespace Document

/-- No number goes on with these characters. -/
def EndsNumber : List Char → Prop
  | [] => True
  | c :: _ => c.isDigit = false ∧ c ≠ '.' ∧ c ≠ 'e' ∧ c ≠ 'E'

/-! ## Numbers -/

theorem head?_toDigits_ne {n : Nat} (hn : n ≠ 0) : (Nat.toDigits 10 n).head? ≠ some '0' := by
  induction n using Nat.strongRecOn with
  | ind n ih =>
      by_cases hlt : n < 10
      · have hall : ∀ d : Fin 10, d.val ≠ 0 → d.val.digitChar ≠ '0' := by decide
        simpa [Nat.toDigits_of_lt_base hlt] using hall ⟨n, hlt⟩ hn
      · have hrest := ih (n / 10) (by omega) (by omega)
        rw [Nat.toDigits_of_base_le (by decide) (by omega)]
        rw [List.head?_append_of_ne_nil _ Nat.toDigits_ne_nil]
        exact hrest

theorem le_ofDigitChars (chars : List Char) (sofar : Nat) :
    sofar ≤ Nat.ofDigitChars 10 chars sofar := by
  induction chars generalizing sofar with
  | nil => exact Nat.le_refl _
  | cons c rest ih =>
      rw [Nat.ofDigitChars_cons]
      exact Nat.le_trans (by omega) (ih _)

/-- Digits of a number that fits are all taken. -/
theorem takeDigits_of_le {chars : List Char} {sofar : Nat}
    (hle : Nat.ofDigitChars 10 chars sofar ≤ Integer.maxUInt64) (taken : Nat) :
    takeDigits sofar taken (chars.map digitValue) =
      (Nat.ofDigitChars 10 chars sofar, taken + chars.length, []) := by
  induction chars generalizing sofar taken with
  | nil => rfl
  | cons c rest ih =>
      rw [Nat.ofDigitChars_cons] at hle ⊢
      have hnext : sofar * 10 + digitValue c = 10 * sofar + (c.toNat - '0'.toNat) := by
        rw [digitValue, Nat.mul_comm]
      have hfits : 10 * sofar + (c.toNat - '0'.toNat) ≤ Integer.maxUInt64 :=
        Nat.le_trans (le_ofDigitChars rest _) hle
      rw [List.map_cons, takeDigits, hnext, if_pos hfits, ih hle, List.length_cons,
        Nat.add_assoc, Nat.add_comm 1]

theorem spanDigits_toDigits (n : Nat) {rest : List Char} (hrest : EndsNumber rest) :
    spanDigits (Nat.toDigits 10 n ++ rest) = ((Nat.toDigits 10 n).map digitValue, rest) := by
  have hdigits : ∀ c ∈ Nat.toDigits 10 n, c.isDigit = true := fun c hc =>
    Nat.isDigit_of_mem_toDigits (by decide) (by decide) hc
  have hstop : rest.takeWhile Char.isDigit = [] ∧ rest.dropWhile Char.isDigit = rest := by
    cases rest with
    | nil => exact ⟨rfl, rfl⟩
    | cons c rest => simp [hrest.1]
  rw [spanDigits, List.takeWhile_append_of_pos hdigits, List.dropWhile_append_of_pos hdigits,
    hstop.1, hstop.2, List.append_nil]

theorem readFraction?_of_endsNumber {rest : List Char} (hrest : EndsNumber rest) :
    readFraction? rest = some (none, rest) := by
  unfold readFraction?
  split
  next => exact absurd rfl hrest.2.1
  next => rfl

theorem readExponent?_of_endsNumber {rest : List Char} (hrest : EndsNumber rest) :
    readExponent? rest = some (none, rest) := by
  cases rest with
  | nil => rfl
  | cons c rest =>
      obtain ⟨-, -, hlower, hupper⟩ := hrest
      simp [readExponent?, hlower, hupper]

/-- The digits of a natural number are read as a number without fraction and exponent. -/
theorem readNumber?_toDigits (negative : Bool) (n : Nat) {rest : List Char}
    (hrest : EndsNumber rest) :
    readNumber? negative (Nat.toDigits 10 n ++ rest) =
      some (.number (numberValue? negative ((Nat.toDigits 10 n).map digitValue) none none),
        rest) := by
  have hne : ((Nat.toDigits 10 n).map digitValue).isEmpty = false := by simp
  have hleading : ¬ (((Nat.toDigits 10 n).map digitValue).head? = some 0 ∧
      ((Nat.toDigits 10 n).map digitValue).length ≠ 1) := by
    rintro ⟨hhead, hlength⟩
    by_cases hn : n = 0
    · subst hn
      exact hlength rfl
    · rw [List.head?_map, Option.map_eq_some_iff] at hhead
      obtain ⟨c, hc, hvalue⟩ := hhead
      have hdigit : c.isDigit = true := Nat.isDigit_of_mem_toDigits (by decide) (by decide)
        (List.mem_of_mem_head? hc)
      obtain ⟨hlower, -⟩ := Integer.isDigit_bounds hdigit
      have hzero : c = '0' := by
        apply Char.toNat_inj.mp
        change c.toNat - 48 = 0 at hvalue
        change c.toNat = 48
        omega
      exact head?_toDigits_ne hn (hzero ▸ hc)
  rw [readNumber?, spanDigits_toDigits n hrest]
  simp only [hne, Bool.false_eq_true, false_or, if_neg hleading, Option.bind_eq_bind,
    readFraction?_of_endsNumber hrest, Option.bind_some, readExponent?_of_endsNumber hrest]
  rfl

theorem numberValue?_toDigits {n : Nat} (hn : n ≤ Integer.maxUInt64) :
    numberValue? false ((Nat.toDigits 10 n).map digitValue) none none =
      some (.integer n) := by
  have hvalue : Nat.ofDigitChars 10 (Nat.toDigits 10 n) 0 ≤ Integer.maxUInt64 := by
    rw [Nat.ofDigitChars_ten_toDigits]
    exact hn
  have htake := takeDigits_of_le hvalue 0
  rw [Nat.ofDigitChars_ten_toDigits] at htake
  simp [numberValue?, htake]

theorem numberValue?_toDigits_negative {n : Nat} (hpos : 0 < n) (hn : n ≤ Nat.pow 2 63) :
    numberValue? true ((Nat.toDigits 10 n).map digitValue) none none =
      some (.integer (-n)) := by
  have hfits : n ≤ Integer.maxUInt64 := Nat.le_trans hn (by decide)
  have hvalue : Nat.ofDigitChars 10 (Nat.toDigits 10 n) 0 ≤ Integer.maxUInt64 := by
    rw [Nat.ofDigitChars_ten_toDigits]
    exact hfits
  have htake := takeDigits_of_le hvalue 0
  rw [Nat.ofDigitChars_ten_toDigits] at htake
  have hne : n ≠ 0 := by omega
  simp only [numberValue?, htake, List.isEmpty_nil, not_true_eq_false, and_false, if_false, hne,
    ne_eq, not_false_eq_true, hn, and_self, if_true]

/-! ## Strings -/

/-- What a character inside a string is read as. -/
def pieceOf (c : Char) : Piece :=
  if c.toNat < 0x20 ∧ c ∉ ['\x08', '\x0c', '\n', '\r', '\t'] then .unit c.toNat else .char c

theorem hexUnit?_hexPair {n : Nat} (hn : n < 0x20) :
    hexUnit? '0' '0' (Nat.digitChar (n / 16 % 16)) (Nat.digitChar (n % 16)) = some n := by
  have hall : ∀ n : Fin 0x20,
      hexUnit? '0' '0' (Nat.digitChar (n.val / 16 % 16)) (Nat.digitChar (n.val % 16)) =
        some n.val := by
    decide
  exact hall ⟨n, hn⟩

/-- A character that is written as it is. -/
theorem readPieces?_plain {c : Char} (hquote : c ≠ '"') (hescape : c ≠ '\\')
    (hcontrol : ¬ c.toNat < 0x20) (rest : List Char) :
    readPieces? (c :: rest) = (readPieces? rest).map fun next => (.char c :: next.1, next.2) := by
  rw [readPieces?]
  · rw [if_neg (not_or.mpr ⟨hescape, hcontrol⟩)]
    cases readPieces? rest <;> rfl
  · exact hquote
  · intro _ _ _ _ _ hc
    exact absurd hc hescape
  · intro _ _ hc
    exact absurd hc hescape

/-- Every character takes the reader one piece further. -/
theorem readPieces?_escapeChar (c : Char) (rest : List Char) :
    readPieces? (escapeChar c ++ rest) =
      (readPieces? rest).map fun next => (pieceOf c :: next.1, next.2) := by
  by_cases hnamed : c ∈ ['"', '\\', '\x08', '\x0c', '\n', '\r', '\t']
  · simp only [List.mem_cons, List.not_mem_nil, or_false] at hnamed
    rcases hnamed with rfl | rfl | rfl | rfl | rfl | rfl | rfl <;>
      cases hrest : readPieces? rest <;>
        simp [escapeChar, readPieces?, simpleEscape?, pieceOf, hrest]
  · simp only [List.mem_cons, List.not_mem_nil, or_false, not_or] at hnamed
    obtain ⟨hquote, hescape, hback, hfeed, hline, hreturn, htab⟩ := hnamed
    by_cases hcontrol : c.toNat < 0x20
    · have hunit := hexUnit?_hexPair hcontrol
      cases hrest : readPieces? rest <;>
        simp [escapeChar, hexPair, readPieces?, pieceOf, hrest, hunit, hquote, hescape, hback,
          hfeed, hline, hreturn, htab, hcontrol]
    · have hchars : escapeChar c = [c] := by
        simp [escapeChar, hquote, hescape, hback, hfeed, hline, hreturn, htab, hcontrol]
      rw [hchars, List.singleton_append, readPieces?_plain hquote hescape hcontrol]
      simp [pieceOf, hcontrol]

theorem readPieces?_escaped (chars rest : List Char) :
    readPieces? (chars.flatMap escapeChar ++ '"' :: rest) = some (chars.map pieceOf, rest) := by
  induction chars with
  | nil => rfl
  | cons c chars ih =>
      rw [List.flatMap_cons, List.append_assoc, readPieces?_escapeChar, ih]
      rfl

theorem joinPieces?_pieceOf (chars : List Char) :
    joinPieces? (chars.map pieceOf) = some chars := by
  induction chars with
  | nil => rfl
  | cons c rest ih =>
      rw [List.map_cons, pieceOf]
      split
      next hcontrol =>
        have hhigh : Text.isHighSurrogate c.toNat = false := by
          simp only [Text.isHighSurrogate, Bool.and_eq_false_iff, decide_eq_false_iff_not]
          omega
        have hlow : Text.isLowSurrogate c.toNat = false := by
          simp only [Text.isLowSurrogate, Bool.and_eq_false_iff, decide_eq_false_iff_not]
          omega
        unfold joinPieces?
        simp [hhigh, hlow, ih]
      next =>
        rw [joinPieces?, ih]
        rfl

/-- A string is read up to its closing quote. -/
theorem readText?_renderString (text : String) (rest : List Char) :
    readText? (text.toList.flatMap escapeChar ++ '"' :: rest) = some (some text, rest) := by
  rw [readText?, readPieces?_escaped]
  simp [joinPieces?_pieceOf]

/-! ## Values -/

theorem skipSpace_cons {c : Char} (hc : isSpace c = false) (rest : List Char) :
    skipSpace (c :: rest) = c :: rest := by
  rw [skipSpace, List.dropWhile_cons, hc, if_neg Bool.false_ne_true]

theorem isSpace_eq_false_of_isDigit {c : Char} (hc : c.isDigit = true) : isSpace c = false := by
  obtain ⟨hlower, -⟩ := Integer.isDigit_bounds hc
  simp only [isSpace, Bool.or_eq_false_iff, decide_eq_false_iff_not]
  refine ⟨⟨⟨?_, ?_⟩, ?_⟩, ?_⟩ <;> rintro rfl <;> exact absurd hlower (by decide)

theorem exists_digit_cons (n : Nat) :
    ∃ c rest, Nat.toDigits 10 n = c :: rest ∧ c.isDigit = true := by
  cases hdigits : Nat.toDigits 10 n with
  | nil => exact absurd hdigits Nat.toDigits_ne_nil
  | cons c rest =>
      exact ⟨c, rest, rfl, Nat.isDigit_of_mem_toDigits (by decide) (by decide)
        (hdigits ▸ List.mem_cons_self)⟩

/-- A value starts with neither a space nor a closing bracket. -/
theorem exists_renderChars_cons {value : Json} (hwhole : Whole value) :
    ∃ c rest, renderChars value = c :: rest ∧ isSpace c = false ∧ c ≠ ']' := by
  cases value with
  | null => exact ⟨_, _, rfl, by decide, by decide⟩
  | bool value => cases value <;> exact ⟨_, _, rfl, by decide, by decide⟩
  | string value => exact ⟨_, _, rfl, by decide, by decide⟩
  | array items => cases items <;> exact ⟨_, _, rfl, by decide, by decide⟩
  | object members =>
      cases members with
      | nil => exact ⟨_, _, rfl, by decide, by decide⟩
      | cons entry rest => exact ⟨_, _, rfl, by decide, by decide⟩
  | number value =>
      cases value with
      | real value => exact absurd hwhole (by simp [Whole])
      | integer value =>
          by_cases hnegative : value < 0
          · refine ⟨'-', Nat.toDigits 10 value.natAbs, ?_, by decide, by decide⟩
            simp [renderChars, Number.render, Integer.render, hnegative, Integer.digits]
          · obtain ⟨c, rest, hdigits, hc⟩ := exists_digit_cons value.natAbs
            refine ⟨c, rest, ?_, isSpace_eq_false_of_isDigit hc, ?_⟩
            · simp [renderChars, Number.render, Integer.render, hnegative, Integer.digits, hdigits]
            · rintro rfl
              exact absurd hc (by decide)

/-! What the reader does with the first character of a value. -/

section FirstCharacter

variable (fuel : Nat) (rest : List Char)

theorem readValue?_minus : readValue? (fuel + 1) ('-' :: rest) = readNumber? true rest := rfl

theorem readValue?_quote : readValue? (fuel + 1) ('"' :: rest) =
    (readText? rest).map fun (text, rest) => (.string text, rest) := rfl

theorem readValue?_bracket {c : Char} (hspace : isSpace c = false) (hc : c ≠ ']') :
    readValue? (fuel + 1) ('[' :: c :: rest) =
      (readItems? fuel (c :: rest)).map fun (items, rest) => (.array items, rest) := by
  rw [readValue?, skipSpace_cons (by decide : isSpace '[' = false)]
  simp only [skipSpace_cons hspace]
  split
  next heq => exact absurd (List.cons.inj heq).1 hc
  next => rfl

theorem readValue?_brace : readValue? (fuel + 1) ('\x7b' :: '"' :: rest) =
    (readMembers? fuel ('"' :: rest)).map fun (members, rest) => (.object members, rest) := rfl

theorem readValue?_digit {c : Char} (hc : c.isDigit = true) :
    readValue? (fuel + 1) (c :: rest) = readNumber? false (c :: rest) := by
  rw [readValue?, skipSpace_cons (isSpace_eq_false_of_isDigit hc)]
  split
  all_goals first
    | rfl
    | next heq =>
        obtain ⟨rfl, -⟩ := List.cons.inj heq
        exact absurd hc (by decide)

end FirstCharacter

theorem readValue?_integer {value : Int} (hwhole : Whole (.number (.integer value)))
    (fuel : Nat) {rest : List Char} (hrest : EndsNumber rest) :
    readValue? (fuel + 1) ((Integer.render value).toList ++ rest) =
      some (.number (some (.integer value)), rest) := by
  obtain ⟨hlower, hupper⟩ := hwhole
  by_cases hnegative : value < 0
  · have hpos : 0 < value.natAbs := by omega
    have hle : value.natAbs ≤ Nat.pow 2 63 := by
      unfold Integer.minInt64 at hlower
      change value.natAbs ≤ 9223372036854775808
      omega
    have hvalue : -(value.natAbs : Int) = value := by omega
    rw [Integer.render, if_pos hnegative, String.toList_ofList, Integer.digits, List.cons_append,
      readValue?_minus, readNumber?_toDigits true value.natAbs hrest,
      numberValue?_toDigits_negative hpos hle, hvalue]
  · have hle : value.natAbs ≤ Integer.maxUInt64 := by omega
    have hvalue : (value.natAbs : Int) = value := by omega
    obtain ⟨c, digits, hdigits, hc⟩ := exists_digit_cons value.natAbs
    rw [Integer.render, if_neg hnegative, String.toList_ofList, Integer.digits, hdigits,
      List.cons_append, readValue?_digit fuel _ hc, ← List.cons_append, ← hdigits,
      readNumber?_toDigits false value.natAbs hrest, numberValue?_toDigits hle, hvalue]

theorem endsNumber_renderItems (items : List Json) (rest : List Char) :
    EndsNumber (renderItems items ++ rest) := by
  cases items <;> exact ⟨by decide, by decide, by decide, by decide⟩

theorem endsNumber_renderMembers (members : List (String × Json)) (rest : List Char) :
    EndsNumber (renderMembers members ++ rest) := by
  cases members <;> exact ⟨by decide, by decide, by decide, by decide⟩

theorem readItems?_last {fuel : Nat} {chars rest : List Char} {item : Document}
    (hitem : readValue? fuel chars = some (item, ']' :: rest)) :
    readItems? (fuel + 1) chars = some ([item], rest) := by
  rw [readItems?, hitem]
  rfl

theorem readItems?_next {fuel : Nat} {chars middle rest : List Char} {item : Document}
    {items : List Document} (hitem : readValue? fuel chars = some (item, ',' :: middle))
    (hitems : readItems? fuel middle = some (items, rest)) :
    readItems? (fuel + 1) chars = some (item :: items, rest) := by
  rw [readItems?, hitem]
  simp only [Option.bind_eq_bind, Option.bind_some, skipSpace_cons (c := ',') (by decide), hitems]
  rfl

/-- A key, and its value behind a colon. -/
theorem readMembers?_key (fuel : Nat) (key : String) (chars : List Char) :
    readMembers? (fuel + 1) (renderString key ++ ':' :: chars) =
      (readValue? fuel chars).bind fun (value, rest) =>
        match skipSpace rest with
        | ',' :: rest => (readMembers? fuel rest).bind fun (members, rest) =>
          some ((some key, value) :: members, rest)
        | '\x7d' :: rest => some ([(some key, value)], rest)
        | _ => none := by
  rw [renderString, List.append_assoc, List.cons_append, readMembers?,
    skipSpace_cons (c := '"') (by decide)]
  simp only [List.singleton_append, readText?_renderString, Option.bind_eq_bind, Option.bind_some,
    skipSpace_cons (c := ':') (by decide)]
  rfl

mutual

/-- Each level and each item takes at least one character, so the length of the text is fuel
enough. -/
theorem readValue?_renderChars : ∀ (value : Json) (fuel : Nat) (rest : List Char), Whole value →
    EndsNumber rest → (renderChars value).length ≤ fuel →
    readValue? fuel (renderChars value ++ rest) = some (ofJson value, rest)
  | value, 0, _, hwhole, _, hfuel => by
      obtain ⟨c, rest, hchars, -⟩ := exists_renderChars_cons hwhole
      simp [hchars] at hfuel
  | .null, fuel + 1, rest, _, _, _ => rfl
  | .bool true, fuel + 1, rest, _, _, _ => rfl
  | .bool false, fuel + 1, rest, _, _, _ => rfl
  | .number (.real value), fuel + 1, rest, hwhole, _, _ => absurd hwhole (by simp [Whole])
  | .number (.integer value), fuel + 1, rest, hwhole, hrest, _ =>
      readValue?_integer hwhole fuel hrest
  | .string value, fuel + 1, rest, _, _, _ => by
      rw [renderChars, renderString, List.append_assoc, List.cons_append, readValue?_quote,
        List.singleton_append, readText?_renderString]
      rfl
  | .array [], fuel + 1, rest, _, _, _ => rfl
  | .array (item :: items), fuel + 1, rest, hwhole, _, hfuel => by
      have hitems := readItems?_renderItems item items fuel rest hwhole.1 hwhole.2 (by
        simp only [renderChars, List.length_append, List.length_cons] at hfuel ⊢
        omega)
      obtain ⟨c, chars, hchars, hspace, hc⟩ := exists_renderChars_cons hwhole.1
      rw [hchars, List.cons_append] at hitems
      rw [renderChars, List.append_assoc, hchars, List.cons_append, List.cons_append,
        readValue?_bracket fuel _ hspace hc, hitems]
      rfl
  | .object [], fuel + 1, rest, _, _, _ => rfl
  | .object ((key, value) :: members), fuel + 1, rest, hwhole, _, hfuel => by
      have hmembers := readMembers?_renderMembers key value members fuel rest hwhole.1 hwhole.2 (by
        simp only [renderChars, List.length_append, List.length_cons] at hfuel ⊢
        omega)
      rw [renderChars, List.append_assoc, List.append_assoc, List.cons_append, renderString,
        List.cons_append, List.cons_append, readValue?_brace]
      rw [renderString, List.cons_append, List.cons_append] at hmembers
      rw [List.cons_append, hmembers]
      rfl

theorem readItems?_renderItems : ∀ (item : Json) (items : List Json) (fuel : Nat)
    (rest : List Char), Whole item → WholeItems items →
    (renderChars item ++ renderItems items).length ≤ fuel →
    readItems? fuel (renderChars item ++ (renderItems items ++ rest)) =
      some (ofItems (item :: items), rest)
  | item, items, 0, rest, _, _, hfuel => by
      cases items <;> simp [renderItems] at hfuel
  | item, [], fuel + 1, rest, hitem, _, hfuel => by
      refine readItems?_last (readValue?_renderChars item fuel _ hitem
        (endsNumber_renderItems [] rest) ?_)
      simp only [renderItems, List.length_append, List.length_singleton] at hfuel
      omega
  | item, next :: items, fuel + 1, rest, hitem, hitems, hfuel => by
      simp only [renderItems, List.length_append, List.length_cons] at hfuel
      have hfirst := readValue?_renderChars item fuel (renderItems (next :: items) ++ rest) hitem
        (endsNumber_renderItems _ _) (by omega)
      have hrest := readItems?_renderItems next items fuel rest hitems.1 hitems.2 (by
        rw [List.length_append]
        omega)
      simp only [renderItems, List.cons_append, List.append_assoc] at hfirst ⊢
      exact readItems?_next hfirst hrest

theorem readMembers?_renderMembers : ∀ (key : String) (value : Json)
    (members : List (String × Json)) (fuel : Nat) (rest : List Char), Whole value →
    WholeMembers members →
    (renderString key ++ ':' :: (renderChars value ++ renderMembers members)).length ≤ fuel →
    readMembers? fuel (renderString key ++ ':' :: (renderChars value ++
        (renderMembers members ++ rest))) =
      some (ofMembers ((key, value) :: members), rest)
  | key, value, members, 0, rest, _, _, hfuel => by
      simp [renderString] at hfuel
  | key, value, [], fuel + 1, rest, hvalue, _, hfuel => by
      have hfirst := readValue?_renderChars value fuel (renderMembers [] ++ rest) hvalue
        (endsNumber_renderMembers _ _) (by
          simp only [renderString, List.length_append, List.length_cons] at hfuel
          omega)
      rw [readMembers?_key, hfirst]
      rfl
  | key, value, (nextKey, next) :: members, fuel + 1, rest, hvalue, hmembers, hfuel => by
      simp only [renderMembers, List.length_append, List.length_cons] at hfuel
      have hfirst := readValue?_renderChars value fuel
        (renderMembers ((nextKey, next) :: members) ++ rest) hvalue
        (endsNumber_renderMembers _ _) (by omega)
      have hrest := readMembers?_renderMembers nextKey next members fuel rest hmembers.1 hmembers.2
        (by
          simp only [List.length_append, List.length_cons]
          omega)
      rw [readMembers?_key, hfirst, Option.bind_some]
      simp only [renderMembers, List.cons_append, List.append_assoc,
        skipSpace_cons (c := ',') (by decide), hrest, Option.bind_some]
      rfl

end

/-- The text of a value is read as the document of the value. -/
theorem parse?_render {value : Json} (hwhole : Whole value) :
    parse? value.render = some (ofJson value) := by
  have hread := readValue?_renderChars value (2 * (renderChars value).length + 2) [] hwhole trivial
    (by omega)
  rw [List.append_nil] at hread
  rw [parse?, render, String.toList_ofList, hread]
  rfl

end Document

end MemberDiscovery.Json
