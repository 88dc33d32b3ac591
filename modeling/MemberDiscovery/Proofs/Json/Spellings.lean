import Mathlib.Data.List.DropRight
import Mathlib.Data.List.TakeWhile
import MemberDiscovery.Proofs.Json.Fields

/-! # Spellings of single values

Registries write one value in several ways: an integer also as decimal text and a flag also as its
word, both with blanks around them, and a map of texts with a class marker in it or as null if it is
empty. For each kind of value there is a relation between the value and the JSON that spells it, and
two facts: whatever spells the value is read as the value, and its text can be read back.
-/

namespace MemberDiscovery

namespace Text

/-- A word with blanks around it. -/
def Padded (word text : String) : Prop :=
  ∃ left right : List Char, (∀ c ∈ left ++ right, isBlank c = true) ∧
    text.toList = left ++ word.toList ++ right

/-- A text that neither begins nor ends with a blank. -/
def Trimmed (word : String) : Prop :=
  (∀ c ∈ word.toList.head?, isBlank c = false) ∧ ∀ c ∈ word.toList.getLast?, isBlank c = false

/-- What stands behind blanks and begins with something else is all that is kept. -/
theorem dropWhile_isBlank_append {left kept : List Char} (hleft : ∀ c ∈ left, isBlank c = true)
    (hkept : ∀ c ∈ kept.head?, isBlank c = false) : (left ++ kept).dropWhile isBlank = kept := by
  rw [List.dropWhile_append_of_pos hleft]
  cases kept with
  | nil => rfl
  | cons c rest => exact List.dropWhile_cons_of_neg (by simp [hkept c rfl])

/-- Trimming takes the blanks at both ends away and nothing else. -/
theorem trim_eq_iff {word text : String} : trim text = word ↔ Padded word text ∧ Trimmed word := by
  constructor
  · rintro rfl
    have hhead := List.head?_dropWhile_not isBlank text.toList
    have hsplit := @List.takeWhile_append_dropWhile _ isBlank text.toList
    have htrim : (trim text).toList = (text.toList.dropWhile isBlank).rdropWhile isBlank :=
      String.toList_ofList
    generalize text.toList.dropWhile isBlank = rest at hhead hsplit htrim
    have hrest : rest.rdropWhile isBlank ++ rest.rtakeWhile isBlank = rest := by
      rw [List.rdropWhile, List.rtakeWhile, ← List.reverse_append,
        List.takeWhile_append_dropWhile, List.reverse_reverse]
    refine ⟨⟨text.toList.takeWhile isBlank, rest.rtakeWhile isBlank, ?_, ?_⟩, ?_, ?_⟩
    · intro c hc
      rcases List.mem_append.mp hc with hleft | hright
      · exact List.mem_takeWhile_imp hleft
      · exact List.mem_rtakeWhile_imp hright
    · rw [htrim, List.append_assoc, hrest, hsplit]
    · -- What is left at the front was there before anything was taken from the end.
      intro c hc
      rw [← hrest, List.head?_append, ← htrim, hc] at hhead
      exact hhead
    · intro c hc
      have hhead := List.head?_dropWhile_not isBlank rest.reverse
      rw [htrim, List.rdropWhile, List.getLast?_reverse] at hc
      rw [hc] at hhead
      exact hhead
  · rintro ⟨⟨left, right, hblank, htext⟩, hfirst, hlast⟩
    obtain ⟨hleft, hright⟩ := List.forall_mem_append.mp hblank
    rw [trim, trimChars, htext, List.append_assoc, dropTrailing]
    by_cases hempty : word.toList = []
    · rw [hempty, List.nil_append, List.dropWhile_eq_nil_iff.mpr hblank]
      exact (String.toList_inj.mp (by simpa using hempty)).symm
    · rw [dropWhile_isBlank_append hleft, List.reverse_append, dropWhile_isBlank_append,
        List.reverse_reverse, String.ofList_toList]
      · simpa using hright
      · simpa using hlast
      · rwa [List.head?_append_of_ne_nil _ hempty]

theorem trim_of_padded {word text : String} (htext : Padded word text)
    (hword : ∀ c ∈ word.toList, isBlank c = false) : trim text = word :=
  trim_eq_iff.mpr ⟨htext, fun c hc => hword c (List.mem_of_mem_head? hc),
    fun c hc => hword c (List.mem_of_mem_getLast? hc)⟩

theorem padded_trim (text : String) : Padded (trim text) text :=
  (trim_eq_iff.mp rfl).1

theorem trim_trim (text : String) : trim (trim text) = trim text :=
  trim_eq_iff.mpr ⟨⟨[], [], by simp, by simp⟩, (trim_eq_iff.mp rfl).2⟩

theorem trim_eq_empty_iff {text : String} : trim text = "" ↔ isBlankText text = true := by
  rw [trim_eq_iff, isBlankText, List.all_eq_true]
  constructor
  · rintro ⟨⟨left, right, hblank, htext⟩, -⟩
    rw [htext]
    simpa using hblank
  · intro hblank
    exact ⟨⟨text.toList, [], by simpa using hblank, by simp⟩, by simp [Trimmed]⟩

end Text

namespace Integer

/-- The decimal spellings of an integer: a sign or none, and digits, leading zeros among them. -/
inductive Spells (value : Int) : List Char → Prop where
  | bare {digits : List Char} (hne : digits ≠ []) (hdigits : ∀ c ∈ digits, c.isDigit = true)
      (hvalue : Nat.ofDigitChars 10 digits 0 = value) : Spells value digits
  | plus {digits : List Char} (hne : digits ≠ []) (hdigits : ∀ c ∈ digits, c.isDigit = true)
      (hvalue : Nat.ofDigitChars 10 digits 0 = value) : Spells value ('+' :: digits)
  | minus {digits : List Char} (hne : digits ≠ []) (hdigits : ∀ c ∈ digits, c.isDigit = true)
      (hvalue : -(Nat.ofDigitChars 10 digits 0 : Int) = value) : Spells value ('-' :: digits)

theorem readNat?_of_isDigit {digits : List Char} (hne : digits ≠ [])
    (hdigits : ∀ c ∈ digits, c.isDigit = true) :
    readNat? 10 digits = some (Nat.ofDigitChars 10 digits 0) := by
  rw [readNat?, if_neg (by simpa using hne), readDigits?_of_isDigit hdigits]

theorem readSigned?_of_spells {value : Int} {chars : List Char} (hchars : Spells value chars) :
    readSigned? 10 chars = some value := by
  cases hchars with
  | bare hne hdigits hvalue =>
      cases chars with
      | nil => exact absurd rfl hne
      | cons c rest =>
          rw [readSigned?_of_isDigit rest (hdigits c List.mem_cons_self),
            readNat?_of_isDigit hne hdigits, ← hvalue]
          rfl
  | plus hne hdigits hvalue =>
      rw [readSigned?, readNat?_of_isDigit hne hdigits, ← hvalue]
      rfl
  | minus hne hdigits hvalue =>
      rw [readSigned?, readNat?_of_isDigit hne hdigits, ← hvalue]
      rfl

theorem exists_digits_of_readNat? {digits : List Char} {value : Nat}
    (hread : readNat? 10 digits = some value) :
    digits ≠ [] ∧ (∀ c ∈ digits, c.isDigit = true) ∧ Nat.ofDigitChars 10 digits 0 = value := by
  have hne : digits ≠ [] := by
    rintro rfl
    cases hread
  have hdigits : ∀ c ∈ digits, c.isDigit = true := by
    rw [readNat?, if_neg (by simpa using hne)] at hread
    exact isDigit_of_readDigits? hread
  refine ⟨hne, hdigits, ?_⟩
  rw [readNat?_of_isDigit hne hdigits, Option.some.injEq] at hread
  exact hread

/-- An integer is read from its decimal spellings and from nothing else. -/
theorem readSigned?_eq_some_iff {value : Int} {chars : List Char} :
    readSigned? 10 chars = some value ↔ Spells value chars := by
  refine ⟨?_, readSigned?_of_spells⟩
  intro hread
  unfold readSigned? at hread
  split at hread
  next rest =>
    obtain ⟨_, hlifted, rfl⟩ := Option.map_eq_some_iff.mp hread
    obtain ⟨n, hn, hcast⟩ := Option.bind_eq_some_iff.mp hlifted
    cases hcast
    obtain ⟨hne, hdigits, hvalue⟩ := exists_digits_of_readNat? hn
    exact .minus hne hdigits (by rw [hvalue])
  next rest =>
    obtain ⟨n, hn, rfl⟩ := Option.map_eq_some_iff.mp hread
    obtain ⟨hne, hdigits, hvalue⟩ := exists_digits_of_readNat? hn
    exact .plus hne hdigits (by rw [hvalue]; rfl)
  next =>
    obtain ⟨n, hn, rfl⟩ := Option.map_eq_some_iff.mp hread
    obtain ⟨hne, hdigits, hvalue⟩ := exists_digits_of_readNat? hn
    exact .bare hne hdigits (by rw [hvalue]; rfl)

theorem isBlank_of_spells {value : Int} {chars : List Char} (hchars : Spells value chars) :
    ∀ c ∈ chars, Text.isBlank c = false := by
  have hdigit : ∀ {digits : List Char}, (∀ c ∈ digits, c.isDigit = true) →
      ∀ c ∈ digits, Text.isBlank c = false := fun hdigits c hc =>
    isBlank_eq_false_of_isDigit (hdigits c hc)
  cases hchars with
  | bare _ hdigits _ => exact hdigit hdigits
  | plus _ hdigits _ => exact List.forall_mem_cons.mpr ⟨by decide, hdigit hdigits⟩
  | minus _ hdigits _ => exact List.forall_mem_cons.mpr ⟨by decide, hdigit hdigits⟩

theorem toInt32?_toInt (n : Int32) : toInt32? n.toInt = some n := by
  have hlower := n.minValue_le_toInt
  have hupper := n.toInt_le
  have hrange : minInt32 ≤ n.toInt ∧ n.toInt ≤ maxInt32 := ⟨hlower, hupper⟩
  rw [toInt32?, if_pos hrange, Int32.ofInt_toInt]

theorem toInt64?_toInt (n : Int64) : toInt64? n.toInt = some n := by
  have hlower := n.minValue_le_toInt
  have hupper := n.toInt_le
  have hrange : minInt64 ≤ n.toInt ∧ n.toInt ≤ maxInt64 := ⟨hlower, hupper⟩
  rw [toInt64?, if_pos hrange, Int64.ofInt_toInt]

theorem toInt64?_eq_some_iff {value : Int} {n : Int64} :
    toInt64? value = some n ↔ value = n.toInt := by
  constructor
  · intro hn
    unfold toInt64? at hn
    split at hn
    next hrange =>
      obtain ⟨hlower, hupper⟩ := hrange
      unfold minInt64 at hlower
      unfold maxInt64 at hupper
      rw [Option.some.injEq] at hn
      rw [← hn, Int64.toInt_ofInt_of_le (by omega) (by omega)]
    next => cases hn
  · rintro rfl
    exact toInt64?_toInt n

theorem toInt32?_eq_some_iff {value : Int} {n : Int32} :
    toInt32? value = some n ↔ value = n.toInt := by
  constructor
  · intro hn
    unfold toInt32? at hn
    split at hn
    next hrange =>
      obtain ⟨hlower, hupper⟩ := hrange
      unfold minInt32 at hlower
      unfold maxInt32 at hupper
      rw [Option.some.injEq] at hn
      rw [← hn, Int32.toInt_ofInt_of_le (by omega) (by omega)]
    next => cases hn
  · rintro rfl
    exact toInt32?_toInt n

/-- A word of 32 bits is read from its decimal spellings. -/
theorem readInt32?_eq_some_iff {text : String} {n : Int32} :
    readInt32? text = some n ↔ Spells n.toInt text.toList := by
  simp only [readInt32?, Option.bind_eq_some_iff, toInt32?_eq_some_iff, exists_eq_right]
  exact readSigned?_eq_some_iff

/-- A word of 64 bits is read from its decimal spellings, with blanks around them or without. -/
theorem readInt64?_trim_eq_some_iff {text : String} {n : Int64} :
    readInt64? (Text.trim text) = some n ↔
      ∃ word, Text.Padded word text ∧ Spells n.toInt word.toList := by
  constructor
  · intro hread
    obtain ⟨value, hvalue, hn⟩ := Option.bind_eq_some_iff.mp hread
    rw [toInt64?_eq_some_iff.mp hn] at hvalue
    exact ⟨Text.trim text, Text.padded_trim text, readSigned?_eq_some_iff.mp hvalue⟩
  · rintro ⟨word, hpadded, hspells⟩
    rw [Text.trim_of_padded hpadded (isBlank_of_spells hspells), readInt64?, read?,
      readSigned?_of_spells hspells, Option.bind_some, toInt64?_toInt]

end Integer

namespace Json

open Document (classKey)

/-! ## Texts -/

def SpellsText (text : String) (value : Json) : Prop :=
  value = .string text

/-- An absent text may be written as null. -/
def SpellsOptional (text : Option String) (value : Json) : Prop :=
  value = match text with
    | some text => .string text
    | none => .null

section Text

variable {value : Json}

theorem SpellsText.read {text : String} (hvalue : SpellsText text value) :
    (Document.ofJson value).text? = some text := by
  rw [hvalue]
  rfl

theorem SpellsText.readable {text : String} (hvalue : SpellsText text value) (depth : Nat) :
    Readable depth value := by
  rw [hvalue]
  exact readable_string text

theorem SpellsOptional.read {text : Option String} (hvalue : SpellsOptional text value) :
    (Document.ofJson value).optionalText? = some text := by
  rw [hvalue]
  cases text <;> rfl

theorem SpellsOptional.readable {text : Option String} (hvalue : SpellsOptional text value)
    (depth : Nat) : Readable depth value := by
  rw [hvalue]
  cases text with
  | some text => exact readable_string text
  | none => exact readable_null

end Text

/-! ## Integers and flags -/

/-- A number, or decimal text between blanks. -/
inductive SpellsInteger (n : Int) : Json → Prop where
  | number : SpellsInteger n (.int n)
  | text {word text : String} (hword : Integer.Spells n word.toList)
      (htext : Text.Padded word text) : SpellsInteger n (.string text)

/-- A boolean, or its word between blanks. -/
inductive SpellsFlag (flag : Bool) : Json → Prop where
  | bool : SpellsFlag flag (.bool flag)
  | text {text : String} (htext : Text.Padded (if flag then "true" else "false") text) :
      SpellsFlag flag (.string text)

section Scalar

variable {value : Json}

theorem SpellsInteger.read {n : Int} (hvalue : SpellsInteger n value) :
    (Document.ofJson value).integer? = some n := by
  cases hvalue with
  | number => rfl
  | text hword htext =>
      rw [Document.ofJson, Document.integer?,
        Text.trim_of_padded htext (Integer.isBlank_of_spells hword)]
      exact Integer.readSigned?_of_spells hword

theorem SpellsInteger.read32 {n : Int32} (hvalue : SpellsInteger n.toInt value) :
    (Document.ofJson value).int32? = some n := by
  rw [Document.int32?, hvalue.read]
  exact Integer.toInt32?_toInt n

theorem SpellsInteger.read64 {n : Int64} (hvalue : SpellsInteger n.toInt value) :
    (Document.ofJson value).int64? = some n := by
  rw [Document.int64?, hvalue.read]
  exact Integer.toInt64?_toInt n

theorem SpellsInteger.readable32 {n : Int32} (hvalue : SpellsInteger n.toInt value) (depth : Nat) :
    Readable depth value := by
  cases hvalue with
  | number =>
      exact readable_int (Int.le_trans (by decide) n.minValue_le_toInt)
        (Int.le_trans n.toInt_le (by decide))
  | text _ _ => exact readable_string _

theorem SpellsInteger.readable64 {n : Int64} (hvalue : SpellsInteger n.toInt value) (depth : Nat) :
    Readable depth value := by
  cases hvalue with
  | number => exact readable_int n.minValue_le_toInt n.toInt_le
  | text _ _ => exact readable_string _

theorem SpellsFlag.read {flag : Bool} (hvalue : SpellsFlag flag value) :
    (Document.ofJson value).flag? = some flag := by
  cases hvalue with
  | bool => rfl
  | text htext =>
      have hwords : ((if flag then "true" else "false").toList.all fun c => !Text.isBlank c) =
          true := by
        cases flag <;> decide
      have hword : ∀ c ∈ (if flag then "true" else "false").toList, Text.isBlank c = false := by
        simpa using hwords
      rw [Document.ofJson, Document.flag?, Text.trim_of_padded htext hword]
      cases flag <;> decide

theorem SpellsFlag.readable {flag : Bool} (hvalue : SpellsFlag flag value) (depth : Nat) :
    Readable depth value := by
  cases hvalue with
  | bool => exact readable_bool flag
  | text _ => exact readable_string _

end Scalar

/-! ## Maps of texts -/

/-- Class markers: any texts under the key of the class. -/
def AreMarkers (markers : List (String × Json)) : Prop :=
  ∀ entry ∈ markers, entry.1 = classKey ∧ ∃ text, entry.2 = .string text

/-- The entries and class markers in any order; an empty map may be null. -/
inductive SpellsTexts (texts : Table String) : Json → Prop where
  | object {markers members : List (String × Json)} (hmarkers : AreMarkers markers)
      (hmembers : members.Perm ((texts.mapValues Json.string).entries ++ markers)) :
      SpellsTexts texts (.object members)
  | null (hempty : texts = ∅) : SpellsTexts texts .null

section Texts

variable {texts : Table String} {value : Json}

theorem toMembers?_ofMembers {members : List (String × Json)}
    (hmembers : ∀ entry ∈ members, ∃ text, entry.2 = .string text) (depth : Nat) :
    Document.toMembers? depth (Document.ofMembers members) = some members := by
  induction members with
  | nil => rfl
  | cons entry rest ih =>
      obtain ⟨key, value⟩ := entry
      obtain ⟨text, rfl⟩ := hmembers _ List.mem_cons_self
      simp [Document.ofMembers, Document.toMembers?, Document.ofJson, Document.toJson?,
        ih fun other hmem => hmembers other (List.mem_cons_of_mem _ hmem)]

theorem exists_text_of_mem {markers members : List (String × Json)} (hmarkers : AreMarkers markers)
    (hmembers : members.Perm ((texts.mapValues Json.string).entries ++ markers)) :
    ∀ entry ∈ members, ∃ text, entry.2 = .string text := by
  intro entry hmem
  rcases List.mem_append.mp (hmembers.mem_iff.mp hmem) with hentry | hmarker
  · obtain ⟨source, -, rfl⟩ := List.mem_map.mp hentry
    exact ⟨source.2, rfl⟩
  · exact (hmarkers entry hmarker).2

theorem mapValues_entryText_string (texts : Table String) :
    (texts.mapValues Json.string).mapValues Document.entryText = texts := by
  obtain ⟨entries, hentries⟩ := texts
  simp only [Table.mapValues, List.map_map, Table.mk.injEq]
  exact List.map_id _

/-- A map is read without its class markers, also if one of its own keys is that of the class. -/
theorem SpellsTexts.read (hvalue : SpellsTexts texts value) {depth : Nat} (hdepth : 0 < depth) :
    (Document.ofJson value).textMap? depth = some (texts.erase classKey) := by
  cases hvalue with
  | null hempty => rw [hempty]; rfl
  | @object markers members hmarkers hmembers =>
      have hmembers' := toMembers?_ofMembers (exists_text_of_mem hmarkers hmembers) (depth - 1)
      have hforeign : ∀ entry ∈ markers, ¬ decide (entry.1 ≠ classKey) = true := by
        intro entry hmem
        simpa using (hmarkers entry hmem).1
      have hfilter := hmembers.filter (·.1 ≠ classKey)
      rw [List.filter_append, List.filter_eq_nil_iff.mpr hforeign, List.append_nil] at hfilter
      have hread : (Table.ofList members).erase classKey =
          (texts.erase classKey).mapValues Json.string := by
        rw [Table.erase_ofList, ← Table.erase_mapValues]
        exact Table.ofList_of_perm hfilter
      rw [Document.ofJson, Document.textMap?]
      simp only [if_neg (Nat.ne_of_gt hdepth), hmembers', Option.bind_eq_bind, Option.bind_some,
        Table.erase_mapValues, hread, mapValues_entryText_string, Option.pure_def]

theorem SpellsTexts.readable (hvalue : SpellsTexts texts value) (depth : Nat) :
    Readable (depth + 1) value := by
  cases hvalue with
  | null hempty => exact readable_null
  | object hmarkers hmembers =>
      refine readable_object fun entry hmem => ?_
      obtain ⟨text, htext⟩ := exists_text_of_mem hmarkers hmembers entry hmem
      rw [htext]
      exact readable_string text

theorem spellsTexts_ofTexts (texts : Table String) : SpellsTexts texts (ofTexts texts) :=
  .object (fun _ hmem => absurd hmem List.not_mem_nil) (by rw [List.append_nil])

end Texts

end Json

end MemberDiscovery
