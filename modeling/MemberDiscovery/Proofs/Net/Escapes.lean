import Mathlib.Data.List.Basic
import MemberDiscovery.Net.Url

/-! # Percent escapes

A text in a path is read by undoing its percent escapes, of those that were written for it and of
those that it came with. Main statements: escaping a text does not change what it stands for
(`unescapeOctets_escape`), and a text stands for itself exactly if it has no escapes of its own
(`length_unescapeOctets_lt`, `unescapeOctets_eq_octets`).
-/

namespace MemberDiscovery.Url

def octets (chars : List Char) : List UInt8 :=
  chars.flatMap String.utf8EncodeChar

theorem octets_cons (c : Char) (rest : List Char) :
    octets (c :: rest) = String.utf8EncodeChar c ++ octets rest :=
  List.flatMap_cons

theorem octets_append (front back : List Char) :
    octets (front ++ back) = octets front ++ octets back :=
  List.flatMap_append

theorem one_le_length_utf8EncodeChar (c : Char) : 1 ≤ (String.utf8EncodeChar c).length := by
  rw [String.length_utf8EncodeChar]
  exact c.utf8Size_pos

/-- Somewhere in a text a percent sign stands before two hexadecimal digits. -/
inductive HasEscape : List Char → Prop where
  | here {a b : Char} {value : Nat} (rest : List Char)
      (hdigits : Integer.readDigits? 16 0 [a, b] = some value) : HasEscape ('%' :: a :: b :: rest)
  | there (c : Char) {rest : List Char} (hrest : HasEscape rest) : HasEscape (c :: rest)

/-! ## What a text stands for -/

theorem unescapeOctets_escape_cons {a b : Char} {value : Nat} (rest : List Char)
    (hdigits : Integer.readDigits? 16 0 [a, b] = some value) :
    unescapeOctets ('%' :: a :: b :: rest) = UInt8.ofNat value :: unescapeOctets rest := by
  rw [unescapeOctets, hdigits]

/-- A character that begins no escape stands for itself. -/
theorem unescapeOctets_cons {c : Char} {rest : List Char}
    (hplain : c = '%' → ∀ a b back, rest = a :: b :: back →
      Integer.readDigits? 16 0 [a, b] = none) :
    unescapeOctets (c :: rest) = String.utf8EncodeChar c ++ unescapeOctets rest := by
  by_cases hc : c = '%'
  · subst hc
    match rest with
    | [] => rfl
    | [a] => rfl
    | a :: b :: back =>
        rw [unescapeOctets, hplain rfl a b back rfl]
        rfl
  · rw [unescapeOctets]
    rintro a b back rfl
    exact absurd rfl hc

/-- What stands at the beginning of a text is an escape, or a character that stands for itself. -/
theorem escape_induction {motive : List Char → Prop} (nil : motive [])
    (escape : ∀ (a b : Char) (value : Nat) (rest : List Char),
      Integer.readDigits? 16 0 [a, b] = some value → motive rest →
      motive ('%' :: a :: b :: rest))
    (itself : ∀ (c : Char) (rest : List Char),
      (c = '%' → ∀ a b back, rest = a :: b :: back → Integer.readDigits? 16 0 [a, b] = none) →
      motive rest → motive (c :: rest)) (chars : List Char) : motive chars := by
  induction chars using unescapeOctets.induct with
  | case1 a b rest value hdigits ih => exact escape a b value rest hdigits ih
  | case2 a b rest hdigits ih =>
      refine itself _ _ ?_ ih
      rintro - a b back heq
      obtain ⟨rfl, rfl, rfl⟩ := by simpa using heq
      exact hdigits
  | case3 c rest hother ih =>
      refine itself c rest ?_ ih
      rintro rfl a b back rfl
      exact absurd rfl (hother a b back rfl)
  | case4 => exact nil

theorem length_unescapeOctets_le (chars : List Char) :
    (unescapeOctets chars).length ≤ (octets chars).length := by
  induction chars using escape_induction with
  | nil => exact Nat.le_refl _
  | escape a b value rest hdigits ih =>
      rw [unescapeOctets_escape_cons rest hdigits, octets_cons, octets_cons, octets_cons]
      simp only [List.length_append, List.length_cons]
      have := one_le_length_utf8EncodeChar '%'
      omega
  | itself c rest hplain ih =>
      rw [unescapeOctets_cons hplain, octets_cons, List.length_append, List.length_append]
      omega

/-- An escape is longer than what it stands for. -/
theorem length_unescapeOctets_lt {chars : List Char} (hescape : HasEscape chars) :
    (unescapeOctets chars).length < (octets chars).length := by
  induction chars using escape_induction with
  | nil => cases hescape
  | escape a b value rest hdigits ih =>
      have hrest := length_unescapeOctets_le rest
      rw [unescapeOctets_escape_cons rest hdigits, octets_cons, octets_cons, octets_cons]
      simp only [List.length_append, List.length_cons]
      have hpercent := one_le_length_utf8EncodeChar '%'
      have ha := one_le_length_utf8EncodeChar a
      omega
  | itself c rest hplain ih =>
      cases hescape with
      | here rest hdigits =>
          rw [hplain rfl _ _ rest rfl] at hdigits
          cases hdigits
      | there c hrest =>
          rw [unescapeOctets_cons hplain, octets_cons, List.length_append, List.length_append]
          exact Nat.add_lt_add_left (ih hrest) _

theorem unescapeOctets_eq_octets {chars : List Char} (hplain : ¬ HasEscape chars) :
    unescapeOctets chars = octets chars := by
  induction chars using escape_induction with
  | nil => rfl
  | escape a b value rest hdigits ih => exact absurd (.here rest hdigits) hplain
  | itself c rest hself ih =>
      rw [unescapeOctets_cons hself, octets_cons, ih fun hrest => hplain (.there c hrest)]

theorem unescapeOctets_ne_nil {chars : List Char} (hchars : chars ≠ []) :
    unescapeOctets chars ≠ [] := by
  induction chars using escape_induction with
  | nil => exact absurd rfl hchars
  | escape a b value rest hdigits ih =>
      rw [unescapeOctets_escape_cons rest hdigits]
      exact List.cons_ne_nil _ _
  | itself c rest hplain ih =>
      rw [unescapeOctets_cons hplain]
      exact List.append_ne_nil_of_left_ne_nil
        (List.ne_nil_of_length_pos (one_le_length_utf8EncodeChar c)) _

theorem fromUTF8?_eq_some_iff {bytes : ByteArray} {text : String} :
    String.fromUTF8? bytes = some text ↔ text.toByteArray = bytes := by
  constructor
  · intro htext
    unfold String.fromUTF8? at htext
    split at htext
    next hvalid =>
      rw [← Option.some.inj htext]
      rfl
    next => cases htext
  · rintro rfl
    exact dif_pos text.isValidUTF8

/-- The octets of a text have to be its UTF-8. -/
theorem unescape?_eq_some_iff {chars text : List Char} :
    unescape? chars = some text ↔ unescapeOctets chars = octets text := by
  have hbytes : (String.ofList text).toByteArray.data.toList = octets text := by
    rw [String.toByteArray_ofList]
    exact congrArg Array.toList List.data_toByteArray
  rw [unescape?, Option.map_eq_some_iff]
  constructor
  · rintro ⟨decoded, hdecoded, rfl⟩
    rw [String.ofList_toList, fromUTF8?_eq_some_iff.mp hdecoded] at hbytes
    exact hbytes
  · intro hoctets
    refine ⟨String.ofList text, fromUTF8?_eq_some_iff.mpr ?_, String.toList_ofList⟩
    rw [hoctets, ← hbytes, Array.toArray_toList]

/-! ## Escaping -/

theorem digit?_digitChar : ∀ digit < 16,
    Integer.digit? (Nat.digitChar digit).toUpper = some digit := by
  decide

theorem unescapeOctets_escapeOctet (octet : UInt8) (rest : List Char) :
    unescapeOctets (escapeOctet octet ++ rest) = octet :: unescapeOctets rest := by
  have hlt : octet.toNat < 256 := octet.toNat_lt
  have hhigh : octet.toNat / 16 < 16 := by omega
  have hlow : octet.toNat % 16 < 16 := by omega
  have hdigits : Integer.readDigits? 16 0 [(Nat.digitChar (octet.toNat / 16)).toUpper,
      (Nat.digitChar (octet.toNat % 16)).toUpper] = some octet.toNat := by
    simp only [Integer.readDigits?, digit?_digitChar _ hhigh, digit?_digitChar _ hlow,
      if_pos hhigh, if_pos hlow]
    congr 1
    omega
  rw [escapeOctet]
  refine (unescapeOctets_escape_cons rest hdigits).trans ?_
  rw [UInt8.ofNat_toNat]

theorem unescapeOctets_flatMap_escapeOctet (written : List UInt8) (rest : List Char) :
    unescapeOctets (written.flatMap escapeOctet ++ rest) = written ++ unescapeOctets rest := by
  induction written with
  | nil => rfl
  | cons octet written ih =>
      rw [List.flatMap_cons, List.append_assoc, unescapeOctets_escapeOctet, ih, List.cons_append]

theorem escapeChar_cases (reserved : List Char) (c : Char) :
    escapeChar reserved c = [c] ∨
      escapeChar reserved c = (String.utf8EncodeChar c).flatMap escapeOctet := by
  unfold escapeChar
  split
  · exact .inr rfl
  · exact .inl rfl

/-- A hexadecimal digit is not escaped in a path. -/
theorem escapeChar_of_digit? {c : Char} {digit : Nat} (hdigit : Integer.digit? c = some digit) :
    escapeChar reservedInPath c = [c] := by
  have hreserved : c ∉ reservedInPath := by
    intro hmem
    have hnone : (reservedInPath.all fun d => (Integer.digit? d).isNone) = true := by decide
    have hdigits := List.all_eq_true.mp hnone c hmem
    rw [hdigit] at hdigits
    cases hdigits
  have hbounds : 0x20 ≤ c.toNat ∧ c.toNat ≤ 0x7E := by
    have hwithin : ∀ {low high : Char}, low ≤ c ∧ c ≤ high → 0x20 ≤ low.toNat →
        high.toNat ≤ 0x7E → 0x20 ≤ c.toNat ∧ c.toNat ≤ 0x7E := fun hc hlow hhigh =>
      ⟨Nat.le_trans hlow hc.1, Nat.le_trans hc.2 hhigh⟩
    unfold Integer.digit? at hdigit
    split at hdigit
    next hc => exact hwithin hc (by decide) (by decide)
    next =>
      split at hdigit
      next hc => exact hwithin hc (by decide) (by decide)
      next =>
        split at hdigit
        next hc => exact hwithin hc (by decide) (by decide)
        next => cases hdigit
  rw [escapeChar, if_neg]
  rintro (hlow | hhigh | hcontains)
  · omega
  · omega
  · exact hreserved (List.contains_iff_mem.mp hcontains)

theorem exists_digits_of_readDigits? {a b : Char} {value : Nat}
    (hdigits : Integer.readDigits? 16 0 [a, b] = some value) :
    (∃ high, Integer.digit? a = some high) ∧ ∃ low, Integer.digit? b = some low := by
  rw [Integer.readDigits?] at hdigits
  split at hdigits
  next high ha =>
    split at hdigits
    · rw [Integer.readDigits?] at hdigits
      split at hdigits
      next low hb => exact ⟨⟨high, ha⟩, low, hb⟩
      next => cases hdigits
    · cases hdigits
  next => cases hdigits

/-- An escaped text that does not begin with an escape begins like the text. -/
theorem exists_of_escape_eq_cons {chars rest : List Char} {a : Char} (ha : a ≠ '%')
    (hescape : chars.flatMap (escapeChar reservedInPath) = a :: rest) :
    ∃ others, chars = a :: others ∧ others.flatMap (escapeChar reservedInPath) = rest := by
  cases chars with
  | nil => cases hescape
  | cons c others =>
      rw [List.flatMap_cons] at hescape
      rcases escapeChar_cases reservedInPath c with hc | hc
      · rw [hc] at hescape
        obtain ⟨rfl, hrest⟩ := List.cons.inj hescape
        exact ⟨others, rfl, hrest⟩
      · obtain ⟨octet, written, hwritten⟩ :=
          List.exists_cons_of_length_pos (one_le_length_utf8EncodeChar c)
        rw [hc, hwritten] at hescape
        exact absurd (List.cons.inj hescape).1.symm ha

theorem toList_escape (reserved chars : List Char) :
    (escape reserved chars).toList = chars.flatMap (escapeChar reserved) :=
  String.toList_ofList

/-- Escaping a text for a path does not change what it stands for. -/
theorem unescapeOctets_escape (chars : List Char) :
    unescapeOctets (escape reservedInPath chars).toList = unescapeOctets chars := by
  rw [toList_escape]
  induction chars using escape_induction with
  | nil => rfl
  | escape a b value rest hdigits ih =>
      obtain ⟨⟨high, ha⟩, low, hb⟩ := exists_digits_of_readDigits? hdigits
      have hpercent : escapeChar reservedInPath '%' = ['%'] := by decide
      rw [List.flatMap_cons, List.flatMap_cons, List.flatMap_cons, hpercent,
        escapeChar_of_digit? ha, escapeChar_of_digit? hb, unescapeOctets_escape_cons rest hdigits,
        ← ih]
      exact unescapeOctets_escape_cons _ hdigits
  | itself c rest hplain ih =>
      rw [List.flatMap_cons, unescapeOctets_cons hplain, ← ih]
      rcases escapeChar_cases reservedInPath c with hc | hc
      · rw [hc]
        refine unescapeOctets_cons ?_
        intro hpercent a b back hback
        -- Digits behind the percent sign are there in the text as well.
        by_contra hdigits
        obtain ⟨value, hdigits⟩ := Option.ne_none_iff_exists'.mp hdigits
        obtain ⟨⟨high, ha⟩, low, hb⟩ := exists_digits_of_readDigits? hdigits
        have hsign : Integer.digit? '%' = none := by decide
        obtain ⟨others, rfl, hothers⟩ := exists_of_escape_eq_cons
          (fun heq => by rw [heq, hsign] at ha; cases ha) hback
        obtain ⟨left, rfl, -⟩ := exists_of_escape_eq_cons
          (fun heq => by rw [heq, hsign] at hb; cases hb) hothers
        rw [hplain hpercent a b left rfl] at hdigits
        cases hdigits
      · rw [hc, unescapeOctets_flatMap_escapeOctet]

/-- Escaping leaves the slashes as they are. -/
theorem slash_mem_escape_iff (chars : List Char) :
    '/' ∈ (escape reservedInPath chars).toList ↔ '/' ∈ chars := by
  have hoctet : ∀ octet : UInt8, '/' ∉ escapeOctet octet := by
    intro octet
    have hlt : octet.toNat < 256 := octet.toNat_lt
    have hdigit : ∀ digit < 16, (Nat.digitChar digit).toUpper ≠ '/' := by decide
    have hhigh := hdigit (octet.toNat / 16) (by omega)
    have hlow := hdigit (octet.toNat % 16) (by omega)
    simp [escapeOctet, hhigh.symm, hlow.symm]
  have hslash : escapeChar reservedInPath '/' = ['/'] := by decide
  rw [toList_escape, List.mem_flatMap]
  constructor
  · rintro ⟨c, hc, hmem⟩
    rcases escapeChar_cases reservedInPath c with hitself | hescaped
    · rw [hitself, List.mem_singleton] at hmem
      rwa [hmem]
    · rw [hescaped, List.mem_flatMap] at hmem
      obtain ⟨octet, -, hoctetmem⟩ := hmem
      exact absurd hoctetmem (hoctet octet)
  · intro hmem
    exact ⟨'/', hmem, by rw [hslash]; exact List.mem_singleton_self _⟩

end MemberDiscovery.Url
