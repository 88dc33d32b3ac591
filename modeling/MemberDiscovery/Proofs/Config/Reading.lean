import MemberDiscovery.Proofs.Config.Escapes
import MemberDiscovery.Proofs.Config.LineReader

/-! # The reader of `java.util.Properties`

`java.util.Properties` reads a text in one pass that only carries flags along: it collects a logical
line, looks for the end of the key and the start of the value, and turns both into code units. Main
statement: a text is read as by that reader, as long as every carriage return stands before a line
feed and no blank line or comment follows a logical line that has begun but is still empty
(`parse_eq_read`).
-/

namespace MemberDiscovery.PropertyText

/-- Parts a logical line where its key ends. The first argument says whether a backslash before
escapes the next character. -/
def scanKey : Bool → List Char → List Char × List Char
  | _, [] => ([], [])
  | escaped, c :: rest =>
    if endsKey c && !escaped then ([], c :: rest)
    else
      let next := scanKey (c = '\\' && !escaped) rest
      (c :: next.1, next.2)

/-- Goes on to where the value starts. The first argument says whether a sign has been passed. -/
def skipSeparator : Bool → List Char → List Char
  | _, [] => []
  | passed, c :: rest =>
    if isGap c then skipSeparator passed rest
    else if !passed && (c = '=' || c = ':') then skipSeparator true rest
    else c :: rest

def entryUnits? (line : List Char) : Option (List Nat × List Nat) :=
  let (key, rest) := scanKey false line
  (units? key).bind fun keyUnits =>
    (units? (skipSeparator false rest)).map fun valueUnits => (keyUnits, valueUnits)

/-- The entries of a text by the rules of `java.util.Properties`, one for each logical line. -/
def readUnits? (text : List Char) : Option (List (List Nat × List Nat)) :=
  (LineReader.start.scan .general text).mapM entryUnits?

def entryText? (units : List Nat × List Nat) : Option (String × String) :=
  (Text.decodeUnits units.1).bind fun key =>
    (Text.decodeUnits units.2).map fun value => (String.ofList key, String.ofList value)

/-- The property set of a text by the rules of `java.util.Properties`, if all of it is text. -/
def read? (text : String) : Option PropertySet :=
  (readUnits? text.toList).bind fun entries => (entries.mapM entryText?).map Table.ofList

theorem scanKey_false (line : List Char) : scanKey false line = splitKey line := by
  induction line using splitKey.induct with
  | case1 => rfl
  | case2 c rest ih => simp [scanKey, splitKey, endsKey, isGap, ih]
  | case3 c rest _ hends => simp [scanKey, splitKey, hends]
  | case4 c rest hescape hends ih =>
      cases rest with
      | nil => simp [scanKey, splitKey, hends]
      | cons next after =>
          have hc : c ≠ '\\' := fun hc => hescape next after hc rfl
          simp [scanKey, splitKey, hends, hc, ← ih]

theorem skipSeparator_true (chars : List Char) :
    skipSeparator true chars = chars.dropWhile isGap := by
  induction chars with
  | nil => rfl
  | cons c rest ih => simp [skipSeparator, ih, List.dropWhile_cons]

theorem skipSeparator_false (chars : List Char) :
    skipSeparator false chars = dropSeparator chars := by
  induction chars with
  | nil => rfl
  | cons c rest ih =>
      unfold dropSeparator at ih ⊢
      cases hgap : isGap c with
      | true => simpa [skipSeparator, hgap] using ih
      | false =>
          by_cases hequals : c = '='
          · subst hequals
            simp [skipSeparator, hgap, skipSeparator_true]
          · by_cases hcolon : c = ':'
            · subst hcolon
              simp [skipSeparator, hgap, skipSeparator_true]
            · simp [skipSeparator, hgap, hequals, hcolon]

theorem toOption_entry (line : List Char) :
    (entry line).toOption = (entryUnits? line).bind entryText? := by
  simp only [entry, entryUnits?, scanKey_false, skipSeparator_false, Except.toOption_bind,
    toOption_unescape, Except.toOption_pure, List.nil_append]
  cases units? (splitKey line).1 with
  | none => rfl
  | some key =>
      cases units? (dropSeparator (splitKey line).2) with
      | none => simp
      | some value =>
          simp only [Option.bind_some, Option.map_some, entryText?]
          cases Text.decodeUnits key <;> cases Text.decodeUnits value <;> rfl

/-- Results can be taken further one by one or once all of them are there. -/
theorem mapM_bind {α β γ : Type} (first : α → Option β) (next : β → Option γ) (list : List α) :
    (list.mapM fun value => (first value).bind next) = (list.mapM first).bind (·.mapM next) := by
  induction list with
  | nil => rfl
  | cons value rest ih =>
      simp only [List.mapM_cons, ih]
      cases first value with
      | none => rfl
      | some middle => cases rest.mapM first <;> simp

theorem toOption_parse (text : String) :
    (parse text).toOption = (entries text).toOption.map Table.ofList := by
  unfold parse
  cases entries text <;> rfl

/-- A text that needs none of the rules on which the readers differ is read alike. -/
theorem parse_eq_read {text : String} (hreturns : returnsBeforeFeeds text.toList = true)
    (hgoOn : emptyLinesGoOn none (naturalLines text.toList) = true) :
    (parse text).toOption = read? text := by
  have hentries : (entries text).toOption = (readUnits? text.toList).bind (·.mapM entryText?) := by
    rw [entries, Except.toOption_mapM, readUnits?, LineReader.scan_general hreturns hgoOn,
      ← mapM_bind]
    simp only [toOption_entry]
  rw [toOption_parse, hentries, read?, Option.map_bind]
  rfl

theorem parse_eq_read_continued :
    let text := "# note\r\na\\u00e9 \\\r\n  = \\uD83D\\uDE00\\\n!x\nb"
    returnsBeforeFeeds text.toList = true ∧
      emptyLinesGoOn none (naturalLines text.toList) = true ∧
      (parse text).toOption = read? text ∧
      (read? text).map (·.entries) = some [("aé", "😀!x"), ("b", "")] := by
  intro text
  have hreturns : returnsBeforeFeeds text.toList = true := by decide
  have hgoOn : emptyLinesGoOn none (naturalLines text.toList) = true := by decide
  exact ⟨hreturns, hgoOn, parse_eq_read hreturns hgoOn, by decide +kernel⟩

end MemberDiscovery.PropertyText
