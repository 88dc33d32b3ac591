/-! # Sixteen-bit code units

Escapes of the form `\uXXXX` name code units of UTF-16. A character outside the basic plane is two
units, a high surrogate and a low one; a surrogate that is not part of such a pair names nothing.
Main statement: decoding the units of a text gives the text back (`decodeUnits_encodeUnits`).
-/

namespace MemberDiscovery.Text

def isHighSurrogate (unit : Nat) : Bool :=
  0xD800 ≤ unit && unit ≤ 0xDBFF

def isLowSurrogate (unit : Nat) : Bool :=
  0xDC00 ≤ unit && unit ≤ 0xDFFF

def unitsOf (c : Char) : List Nat :=
  if c.toNat < 0x10000 then [c.toNat]
  else [0xD800 + (c.toNat - 0x10000) / 0x400, 0xDC00 + (c.toNat - 0x10000) % 0x400]

def pairChar (high low : Nat) : Char :=
  Char.ofNat (0x10000 + (high - 0xD800) * 0x400 + (low - 0xDC00))

/-- Reads units as text; fails at a surrogate that is not part of a pair. -/
def decodeUnits : List Nat → Option (List Char)
  | [] => some []
  | [unit] => if isHighSurrogate unit || isLowSurrogate unit then none else some [Char.ofNat unit]
  | unit :: next :: rest =>
    if isHighSurrogate unit then
      if isLowSurrogate next then (decodeUnits rest).map (pairChar unit next :: ·) else none
    else if isLowSurrogate unit then none
    else (decodeUnits (next :: rest)).map (Char.ofNat unit :: ·)

def encodeUnits (chars : List Char) : List Nat :=
  chars.flatMap unitsOf

theorem not_surrogate_of_char {c : Char} (hc : c.toNat < 0x10000) :
    (isHighSurrogate c.toNat || isLowSurrogate c.toNat) = false := by
  have hvalid : c.toNat < 0xD800 ∨ (0xDFFF < c.toNat ∧ c.toNat < 0x110000) := c.valid
  simp only [isHighSurrogate, isLowSurrogate, Bool.or_eq_false_iff, Bool.and_eq_false_iff,
    decide_eq_false_iff_not, Nat.not_le]
  omega

theorem pairChar_unitsOf {c : Char} (hc : ¬ c.toNat < 0x10000) :
    pairChar (0xD800 + (c.toNat - 0x10000) / 0x400) (0xDC00 + (c.toNat - 0x10000) % 0x400) = c := by
  unfold pairChar
  have hsum : 0x10000 + (0xD800 + (c.toNat - 0x10000) / 0x400 - 0xD800) * 0x400 +
      (0xDC00 + (c.toNat - 0x10000) % 0x400 - 0xDC00) = c.toNat := by omega
  rw [hsum, Char.ofNat_toNat]

theorem decodeUnits_unitsOf_append (c : Char) (rest : List Nat) :
    decodeUnits (unitsOf c ++ rest) = (decodeUnits rest).map (c :: ·) := by
  unfold unitsOf
  split
  next hc =>
    have hnot := not_surrogate_of_char hc
    cases rest with
    | nil => simp [decodeUnits, hnot]
    | cons next rest =>
      rw [Bool.or_eq_false_iff] at hnot
      simp [decodeUnits, hnot.1, hnot.2]
  next hc =>
    have hlt : c.toNat < 0x110000 := by
      have hvalid : c.toNat < 0xD800 ∨ (0xDFFF < c.toNat ∧ c.toNat < 0x110000) := c.valid
      omega
    have hhigh : isHighSurrogate (0xD800 + (c.toNat - 0x10000) / 0x400) = true := by
      simp only [isHighSurrogate, Bool.and_eq_true, decide_eq_true_eq]
      omega
    have hlow : isLowSurrogate (0xDC00 + (c.toNat - 0x10000) % 0x400) = true := by
      simp only [isLowSurrogate, Bool.and_eq_true, decide_eq_true_eq]
      omega
    simp [decodeUnits, hhigh, hlow, pairChar_unitsOf hc]

theorem decodeUnits_encodeUnits (chars : List Char) :
    decodeUnits (encodeUnits chars) = some chars := by
  induction chars with
  | nil => rfl
  | cons c rest ih =>
    rw [encodeUnits, List.flatMap_cons, decodeUnits_unitsOf_append]
    exact congrArg (Option.map (c :: ·)) ih

end MemberDiscovery.Text
