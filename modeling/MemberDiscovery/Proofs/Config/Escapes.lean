import MemberDiscovery.Config.PropertyText

/-! # Escapes as code units

A key or a value is a spelling of code units: every character and every escape stands for one or two
of them, whatever stands before it. Main statement: undoing the escapes is reading the units off and
then decoding all of them at once (`toOption_unescape`), so it does not matter where the runs of
`\uXXXX` escapes begin and end.
-/

namespace MemberDiscovery

/-- The value of a reading, whatever is wrong if there is none. -/
theorem Except.toOption_bind {ε α β : Type} (first : Except ε α) (next : α → Except ε β) :
    (first >>= next).toOption = first.toOption.bind fun value => (next value).toOption := by
  cases first <;> rfl

theorem Except.toOption_pure {ε α : Type} (value : α) :
    (pure value : Except ε α).toOption = some value := rfl

theorem Except.toOption_mapM {ε α β : Type} (f : α → Except ε β) (list : List α) :
    (list.mapM f).toOption = list.mapM fun value => (f value).toOption := by
  induction list with
  | nil => rfl
  | cons value rest ih =>
      simp only [List.mapM_cons, toOption_bind, toOption_pure, ih]
      rfl

namespace Text

theorem decodeUnits_scalar {unit : Nat}
    (hscalar : (isHighSurrogate unit || isLowSurrogate unit) = false) (rest : List Nat) :
    decodeUnits (unit :: rest) = (decodeUnits rest).map (Char.ofNat unit :: ·) := by
  cases rest with
  | nil => simp [decodeUnits, hscalar]
  | cons next rest =>
      rw [Bool.or_eq_false_iff] at hscalar
      simp [decodeUnits, hscalar]

theorem decodeUnits_low {unit : Nat} (hlow : isLowSurrogate unit = true) (rest : List Nat) :
    decodeUnits (unit :: rest) = none := by
  have hhigh : isHighSurrogate unit = false := by
    simp only [isLowSurrogate, isHighSurrogate, Bool.and_eq_true, Bool.and_eq_false_iff,
      decide_eq_true_eq, decide_eq_false_iff_not] at hlow ⊢
    omega
  cases rest <;> simp [decodeUnits, hlow, hhigh]

/-- No part of a character completes a surrogate pair that has begun before it. -/
theorem decodeUnits_high_unitsOf {high : Nat} (hhigh : isHighSurrogate high = true) (c : Char)
    (rest : List Nat) : decodeUnits (high :: (unitsOf c ++ rest)) = none := by
  unfold unitsOf
  split
  next hc =>
    have hlow : isLowSurrogate c.toNat = false :=
      (Bool.or_eq_false_iff.mp (not_surrogate_of_char hc)).2
    simp [decodeUnits, hhigh, hlow]
  next hc =>
    have hlow : isLowSurrogate (0xD800 + (c.toNat - 0x10000) / 0x400) = false := by
      have hlt : c.toNat < 0x110000 := by
        have hvalid : c.toNat < 0xD800 ∨ (0xDFFF < c.toNat ∧ c.toNat < 0x110000) := c.valid
        omega
      simp only [isLowSurrogate, Bool.and_eq_false_iff, decide_eq_false_iff_not]
      omega
    simp [decodeUnits, hhigh, hlow]

/-- A character parts the units before it from those after it. -/
theorem decodeUnits_append_unitsOf (before : List Nat) (c : Char) (after : List Nat) :
    decodeUnits (before ++ (unitsOf c ++ after)) =
      (decodeUnits before).bind fun front =>
        (decodeUnits after).map fun back => front ++ c :: back := by
  induction before using decodeUnits.induct with
  | case1 => simp [decodeUnits, decodeUnits_unitsOf_append]
  | case2 unit hsurrogate =>
      rw [decodeUnits, if_pos hsurrogate, Option.bind_none, List.singleton_append]
      rcases Bool.or_eq_true_iff.mp hsurrogate with hhigh | hlow
      · exact decodeUnits_high_unitsOf hhigh c after
      · exact decodeUnits_low hlow _
  | case3 unit hscalar =>
      rw [Bool.not_eq_true] at hscalar
      rw [List.singleton_append, decodeUnits_scalar hscalar, decodeUnits_scalar hscalar,
        decodeUnits_unitsOf_append]
      simp [decodeUnits, Function.comp_def]
  | case4 unit next rest hhigh hlow ih =>
      simp only [List.cons_append, decodeUnits, if_pos hhigh, if_pos hlow, ih]
      cases decodeUnits rest <;> simp [Function.comp_def]
  | case5 unit next rest hhigh hlow => simp [decodeUnits, hhigh, hlow]
  | case6 unit next rest hhigh hlow => simp [decodeUnits_low hlow]
  | case7 unit next rest hhigh hlow ih =>
      rw [List.cons_append] at ih
      simp only [List.cons_append, decodeUnits, if_neg hhigh, if_neg hlow, ih]
      cases decodeUnits (next :: rest) <;> simp [Function.comp_def]

end Text

namespace PropertyText

/-- The units that a character stands for after a backslash. -/
def escapeUnits : Char → List Nat
  | 't' => [0x09]
  | 'n' => [0x0A]
  | 'r' => [0x0D]
  | 'f' => [0x0C]
  | c => Text.unitsOf c

/-- The units that a key or a value stands for. There are none if an escape lacks its digits. -/
def units? : List Char → Option (List Nat)
  | [] => some []
  | ['\\'] => some []
  | '\\' :: 'u' :: a :: b :: c :: d :: rest =>
    (Integer.readDigits? 16 0 [a, b, c, d]).bind fun unit => (units? rest).map (unit :: ·)
  | '\\' :: 'u' :: _ => none
  | '\\' :: c :: rest => (units? rest).map (escapeUnits c ++ ·)
  | c :: rest => (units? rest).map (Text.unitsOf c ++ ·)

theorem unitsOf_escapedChar (c : Char) : Text.unitsOf (escapedChar c) = escapeUnits c := by
  fun_cases escapeUnits c with
  | case1 | case2 | case3 | case4 => rfl
  | case5 _ ht hn hr hf => rw [escapedChar, if_neg ht, if_neg hn, if_neg hr, if_neg hf]

theorem toOption_textOfUnits (units : List Nat) :
    (textOfUnits units).toOption = Text.decodeUnits units := by
  unfold textOfUnits
  cases Text.decodeUnits units <;> rfl

/-- A character ends the run of units before it, which have to be text by themselves. -/
theorem toOption_char (pending : List Nat) (c : Char) {rest : List Char}
    (hrest : (unescape [] rest).toOption = (units? rest).bind Text.decodeUnits) :
    Except.toOption (do
        let before ← textOfUnits pending
        let after ← unescape [] rest
        return before ++ c :: after) =
      ((units? rest).map (Text.unitsOf c ++ ·)).bind fun units =>
        Text.decodeUnits (pending ++ units) := by
  simp only [Except.toOption_bind, toOption_textOfUnits, hrest, Except.toOption_pure]
  cases units? rest with
  | none => simp
  | some units =>
      rw [Option.map_some, Option.bind_some, Option.bind_some, Text.decodeUnits_append_unitsOf]
      cases Text.decodeUnits pending <;> cases Text.decodeUnits units <;> rfl

theorem toOption_unescape (pending : List Nat) (raw : List Char) :
    (unescape pending raw).toOption =
      (units? raw).bind fun units => Text.decodeUnits (pending ++ units) := by
  induction pending, raw using unescape.induct with
  | case1 pending => simp [unescape, units?, toOption_textOfUnits]
  | case2 pending => simp [unescape, units?, toOption_textOfUnits]
  | case3 pending a b c d rest unit hunit ih =>
      simp only [unescape, units?, hunit, ih, Option.bind_some]
      cases units? rest <;> simp
  | case4 pending a b c d rest hunit => simp [unescape, units?, hunit, Except.toOption]
  | case5 pending rest _ => simp [unescape, units?, Except.toOption]
  | case6 pending c rest _ hu ih =>
      simp only [unescape, units?, ← unitsOf_escapedChar]
      exact toOption_char pending (escapedChar c) ih
  | case7 pending c rest _ _ _ _ ih =>
      simp only [unescape, units?]
      exact toOption_char pending c ih

end PropertyText

end MemberDiscovery
