import MemberDiscovery.Number.Integer
import MemberDiscovery.Text.Blank

/-! # Decimal text reads back

A number that is written in decimal is read back as itself, a natural number also with blanks around
it. So different numbers are written differently.
-/

namespace MemberDiscovery.Integer

theorem isDigit_bounds {c : Char} (hc : c.isDigit = true) : 48 ≤ c.toNat ∧ c.toNat ≤ 57 := by
  simpa [Char.isDigit, Char.le_def, UInt32.le_iff_toNat_le] using hc

theorem digit?_of_isDigit {c : Char} (hc : c.isDigit = true) :
    digit? c = some (c.toNat - '0'.toNat) := by
  have hbounds : '0' ≤ c ∧ c ≤ '9' := by
    simpa [Char.isDigit, Char.le_def] using hc
  rw [digit?, if_pos hbounds]

theorem digit_lt_ten {c : Char} (hc : c.isDigit = true) : c.toNat - '0'.toNat < 10 := by
  obtain ⟨-, hupper⟩ := isDigit_bounds hc
  change c.toNat - 48 < 10
  omega

/-- Reading digits is the positional value that the library gives them. -/
theorem readDigits?_of_isDigit {chars : List Char} (hchars : ∀ c ∈ chars, c.isDigit = true)
    (sofar : Nat) : readDigits? 10 sofar chars = some (Nat.ofDigitChars 10 chars sofar) := by
  induction chars generalizing sofar with
  | nil => rfl
  | cons c rest ih =>
      have hc := hchars c List.mem_cons_self
      rw [readDigits?, digit?_of_isDigit hc]
      simp only [if_pos (digit_lt_ten hc)]
      rw [ih (fun d hd => hchars d (List.mem_cons_of_mem _ hd)), Nat.ofDigitChars_cons]
      rw [Nat.mul_comm sofar 10]

/-- Only the ten digits have a value below ten. -/
theorem isDigit_of_digit? {c : Char} {value : Nat} (hc : digit? c = some value)
    (hvalue : value < 10) : c.isDigit = true := by
  unfold digit? at hc
  split at hc
  next hbounds => simpa [Char.isDigit, Char.le_def] using hbounds
  next =>
    split at hc
    · simp only [Option.some.injEq] at hc
      omega
    · split at hc
      · simp only [Option.some.injEq] at hc
        omega
      · cases hc

/-- Nothing but digits is read as digits. -/
theorem isDigit_of_readDigits? {chars : List Char} {sofar value : Nat}
    (hread : readDigits? 10 sofar chars = some value) : ∀ c ∈ chars, c.isDigit = true := by
  induction chars generalizing sofar with
  | nil => simp
  | cons c rest ih =>
      rw [readDigits?] at hread
      cases hc : digit? c with
      | none =>
          rw [hc] at hread
          cases hread
      | some digit =>
          rw [hc] at hread
          dsimp only at hread
          split at hread
          next hdigit => exact List.forall_mem_cons.mpr ⟨isDigit_of_digit? hc hdigit, ih hread⟩
          next => cases hread

theorem readNat?_toDigits (n : Nat) : readNat? 10 (Nat.toDigits 10 n) = some n := by
  have hdigits : ∀ c ∈ Nat.toDigits 10 n, c.isDigit = true := fun c hc =>
    Nat.isDigit_of_mem_toDigits (by decide) (by decide) hc
  have hne : (Nat.toDigits 10 n).isEmpty = false := by simp
  rw [readNat?, hne, if_neg Bool.false_ne_true, readDigits?_of_isDigit hdigits,
    Nat.ofDigitChars_ten_toDigits]

theorem readSigned?_of_isDigit {c : Char} (rest : List Char) (hc : c.isDigit = true) :
    readSigned? 10 (c :: rest) = (readNat? 10 (c :: rest)).map Int.ofNat := by
  unfold readSigned?
  split
  next heq =>
    obtain ⟨rfl, -⟩ := List.cons.inj heq
    exact absurd hc (by decide)
  next heq =>
    obtain ⟨rfl, -⟩ := List.cons.inj heq
    exact absurd hc (by decide)
  next => rfl

theorem toList_render_natCast (n : Nat) : (render n).toList = Nat.toDigits 10 n := by
  have hnot : ¬ (n : Int) < 0 := by omega
  rw [render, if_neg hnot, String.toList_ofList]
  rfl

/-- What is written for a natural number reads back as that number. -/
theorem read?_render_natCast (n : Nat) : read? (render n) = some (n : Int) := by
  have hdigits : ∀ c ∈ Nat.toDigits 10 n, c.isDigit = true := fun c hc =>
    Nat.isDigit_of_mem_toDigits (by decide) (by decide) hc
  rw [read?, toList_render_natCast]
  cases hlist : Nat.toDigits 10 n with
  | nil => exact absurd hlist Nat.toDigits_ne_nil
  | cons c rest =>
      rw [readSigned?_of_isDigit rest (hdigits c (hlist ▸ List.mem_cons_self)), ← hlist,
        readNat?_toDigits]
      rfl

theorem toList_render_of_neg {n : Int} (hn : n < 0) :
    (render n).toList = '-' :: Nat.toDigits 10 n.natAbs := by
  rw [render, if_pos hn, String.toList_ofList]
  rfl

theorem read?_render (n : Int) : read? (render n) = some n := by
  rcases Int.lt_or_le n 0 with hn | hn
  · rw [read?, toList_render_of_neg hn, readSigned?, readNat?_toDigits]
    change some (-(n.natAbs : Int)) = some n
    congr 1
    omega
  · rw [← Int.toNat_of_nonneg hn]
    exact read?_render_natCast n.toNat

theorem render_injective : Function.Injective render := by
  intro m n heq
  have hread := congrArg read? heq
  rw [read?_render, read?_render] at hread
  exact Option.some.inj hread

/-- A number is written with digits and at most a sign. -/
theorem colon_notMem_render (n : Int) : ':' ∉ (render n).toList := by
  have hdigits : ∀ m : Nat, ':' ∉ Nat.toDigits 10 m := by
    intro m hmem
    exact absurd (Nat.isDigit_of_mem_toDigits (by decide) (by decide) hmem) (by decide)
  rcases Int.lt_or_le n 0 with hn | hn
  · rw [toList_render_of_neg hn, List.mem_cons, not_or]
    exact ⟨by decide, hdigits _⟩
  · rw [← Int.toNat_of_nonneg hn, toList_render_natCast]
    exact hdigits _

theorem isBlank_eq_false_of_isDigit {c : Char} (hc : c.isDigit = true) :
    Text.isBlank c = false := by
  obtain ⟨hlower, hupper⟩ := isDigit_bounds hc
  simp only [Text.isBlank, Text.inRanges, Text.blankRanges, List.any_cons, List.any_nil,
    Bool.or_false, Bool.or_eq_false_iff, Bool.and_eq_false_iff, decide_eq_false_iff_not]
  omega

theorem trim_render_natCast (n : Nat) : Text.trim (render n) = render n := by
  have hblank : ∀ c ∈ Nat.toDigits 10 n, Text.isBlank c = false := fun c hc =>
    isBlank_eq_false_of_isDigit (Nat.isDigit_of_mem_toDigits (by decide) (by decide) hc)
  have hkeep : ∀ chars : List Char, (∀ c ∈ chars, Text.isBlank c = false) →
      chars.dropWhile Text.isBlank = chars := by
    intro chars hchars
    cases chars with
    | nil => rfl
    | cons c rest => rw [List.dropWhile_cons, hchars c List.mem_cons_self]; rfl
  rw [Text.trim, toList_render_natCast, Text.trimChars, Text.dropTrailing, hkeep _ hblank,
    hkeep _ (by simpa using hblank), List.reverse_reverse, ← toList_render_natCast,
    String.ofList_toList]

/-- A number of a 64-bit word that is written in decimal is read back, also after trimming. -/
theorem readInt64?_trim_render_natCast {n : Nat} (hn : (n : Int) ≤ maxInt64) :
    (readInt64? (Text.trim (render n))).map Int64.toInt = some (n : Int) := by
  have hrange : minInt64 ≤ (n : Int) ∧ (n : Int) ≤ maxInt64 := ⟨by unfold minInt64; omega, hn⟩
  rw [trim_render_natCast, readInt64?, read?_render_natCast, Option.bind_some, toInt64?,
    if_pos hrange, Option.map_some]
  unfold maxInt64 at hn
  congr 1
  exact Int64.toInt_ofInt_of_le (by omega) (by omega)

end MemberDiscovery.Integer
