import MemberDiscovery.Config.PropertyText

/-! # Reading logical lines one character at a time

The format can be read without taking the text apart into natural lines first: a reader goes through
the characters and knows what earlier natural lines have given, and where it is in the present one.
`LineRules` has the two points on which readers differ. Main statement: with the rules of
`PropertyText.logicalLines`, the reader finds the same logical lines (`scan_feedsOnly`); with the
rules of `java.util.Properties` it does so for the texts in which neither point matters
(`scan_general`).
-/

namespace MemberDiscovery.PropertyText

/-- The points on which readers of the format differ. -/
structure LineRules where
  /-- Whether a carriage return ends a line also without a line feed after it. -/
  returnEnds : Bool
  /-- Whether a natural line that continues another one is always taken as it is. Otherwise it is
  skipped like any other while nothing is collected. -/
  keepsContinued : Bool

namespace LineRules

def feedsOnly : LineRules := ⟨false, true⟩

/-- The rules of `java.util.Properties`. -/
def general : LineRules := ⟨true, false⟩

/-- Whether blank lines and comments are skipped after what earlier natural lines have given. -/
def skips (rules : LineRules) (pending : Option (List Char)) : Bool :=
  if rules.keepsContinued then pending.isNone else (pending.getD []).isEmpty

theorem skips_none (rules : LineRules) : rules.skips none = true := by
  cases hkeeps : rules.keepsContinued <;> simp [skips, hkeeps]

theorem getD_of_skips {rules : LineRules} {pending : Option (List Char)}
    (hskips : rules.skips pending = true) : pending.getD [] = [] := by
  cases hkeeps : rules.keepsContinued <;> simp_all [skips]

theorem exists_of_not_skips {rules : LineRules} {pending : Option (List Char)}
    (hskips : rules.skips pending = false) : ∃ sofar, pending = some sofar := by
  cases pending with
  | none => simp [skips_none] at hskips
  | some sofar => exact ⟨sofar, rfl⟩

end LineRules

/-- Where a reader is in a natural line. -/
inductive LinePhase where
  /-- Before the first character that is no blank. -/
  | margin
  | comment
  /-- After some characters, the last of which may be a backslash that escapes what follows. -/
  | content (line : List Char) (escaping : Bool)

/-- A reader between two characters. -/
structure LineReader where
  phase : LinePhase
  /-- What the natural lines before this one have given to the logical line, if it has begun. -/
  pending : Option (List Char)

namespace LineReader

def start : LineReader := ⟨.margin, none⟩

/-- Reads a character that ends no line. -/
def step (rules : LineRules) (c : Char) (reader : LineReader) : LineReader :=
  match reader.phase with
  | .comment => reader
  | .margin =>
    -- Once a natural line has begun, an empty logical line begins with it.
    if isGap c then if rules.skips reader.pending then start else reader
    else if rules.skips reader.pending && (c = '#' || c = '!') then
      { reader with phase := .comment }
    else { reader with phase := .content [c] (c = '\\') }
  | .content line escaping =>
    { reader with phase := .content (line ++ [c]) (c = '\\' && !escaping) }

/-- The logical line that ends with the text. -/
def close (reader : LineReader) : List (List Char) :=
  match reader.phase with
  | .comment => []
  | .margin => reader.pending.toList
  | .content line escaping =>
    [reader.pending.getD [] ++ if escaping then line.dropLast else line]

/-- Reads the end of a natural line. An escaped one continues the logical line. -/
def endLine (rules : LineRules) (reader : LineReader) : List (List Char) × LineReader :=
  match reader.phase with
  | .comment => ([], start)
  | .margin => (if rules.skips reader.pending then [] else [reader.pending.getD []], start)
  | .content line true => ([], ⟨.margin, some (reader.pending.getD [] ++ line.dropLast)⟩)
  | .content line false => ([reader.pending.getD [] ++ line], start)

/-- The logical lines from where the reader is. -/
def scan (rules : LineRules) : LineReader → List Char → List (List Char)
  | reader, [] => reader.close
  | reader, '\r' :: '\n' :: rest =>
    (reader.endLine rules).1 ++ scan rules (reader.endLine rules).2 rest
  | reader, c :: rest =>
    if c = '\n' || (rules.returnEnds && c = '\r') then
      (reader.endLine rules).1 ++ scan rules (reader.endLine rules).2 rest
    else scan rules (reader.step rules c) rest

end LineReader

/-! ## The same by natural lines -/

/-- The parity of the backslashes at the end of a line changes with each further one. -/
theorem continues_append_singleton (line : List Char) (c : Char) :
    continues (line ++ [c]) = (decide (c = '\\') && !continues line) := by
  unfold continues
  by_cases hc : c = '\\'
  · have hlength : ∀ n, decide ((n + 1) % 2 = 1) = !decide (n % 2 = 1) := by
      intro n
      rcases Nat.mod_two_eq_zero_or_one n with h | h <;> simp [Nat.add_mod, h]
    simp [hc, hlength]
  · simp [hc]

/-- Joins natural lines to logical ones by the rules of a reader. -/
def joinLines (rules : LineRules) : Option (List Char) → List (List Char) → List (List Char)
  | pending, [] => pending.toList
  | pending, natural :: rest =>
    let line := natural.dropWhile isGap
    if rules.skips pending && isSkipped line then joinLines rules none rest
    else if continues line then joinLines rules (some (pending.getD [] ++ line.dropLast)) rest
    else (pending.getD [] ++ line) :: joinLines rules none rest

/-- What joining makes of a natural line that is not skipped, and of the lines after it. -/
def joinContent (rules : LineRules) (pending : Option (List Char)) (line : List Char)
    (rest : List (List Char)) : List (List Char) :=
  if continues line then joinLines rules (some (pending.getD [] ++ line.dropLast)) rest
  else (pending.getD [] ++ line) :: joinLines rules none rest

theorem joinLines_feedsOnly (pending : Option (List Char)) (lines : List (List Char)) :
    joinLines .feedsOnly pending lines = logicalLines pending lines := by
  induction lines generalizing pending with
  | nil => cases pending <;> rfl
  | cons natural rest ih =>
      simp only [joinLines, logicalLines, ih]
      rfl

/-- Every carriage return stands directly before a line feed. -/
def returnsBeforeFeeds : List Char → Bool
  | [] => true
  | '\r' :: '\n' :: rest => returnsBeforeFeeds rest
  | c :: rest => c ≠ '\r' && returnsBeforeFeeds rest

theorem returnsBeforeFeeds_cons {c : Char} {rest : List Char}
    (hpair : ∀ after, c = '\r' → rest = '\n' :: after → False)
    (htext : returnsBeforeFeeds (c :: rest) = true) :
    c ≠ '\r' ∧ returnsBeforeFeeds rest = true := by
  rw [returnsBeforeFeeds] at htext
  · simpa using htext
  · exact hpair

namespace LineReader

/-- What joining makes of the natural lines from where a reader is. -/
def join (rules : LineRules) (reader : LineReader) (lines : List (List Char)) :
    List (List Char) :=
  match reader.phase with
  | .margin => joinLines rules reader.pending lines
  | .comment => joinLines rules none lines.tail
  | .content line _ => joinContent rules reader.pending (line ++ lines.headD []) lines.tail

/-- A reader knows whether the line so far ends in an odd number of backslashes. -/
def Exact (reader : LineReader) : Prop :=
  ∀ line escaping, reader.phase = .content line escaping → escaping = continues line

theorem exact_start : start.Exact := by
  intro line escaping hphase
  cases hphase

theorem Exact.step {reader : LineReader} (hexact : reader.Exact) (rules : LineRules) (c : Char) :
    (reader.step rules c).Exact := by
  intro line escaping hphase
  obtain ⟨phase, pending⟩ := reader
  cases phase with
  | margin =>
      simp only [LineReader.step] at hphase
      split at hphase
      · split at hphase <;> cases hphase
      · split at hphase
        · cases hphase
        · cases hphase
          simpa [continues] using (continues_append_singleton [] c).symm
  | comment => cases hphase
  | content before escaped =>
      cases hphase
      rw [continues_append_singleton, hexact before escaped rfl]

theorem join_nil {reader : LineReader} (hexact : reader.Exact) (rules : LineRules) :
    reader.join rules [] = reader.close := by
  obtain ⟨phase, pending⟩ := reader
  cases phase with
  | margin => rfl
  | comment => rfl
  | content line escaping =>
      rw [hexact line escaping rfl]
      cases hline : continues line <;> simp [join, joinContent, close, hline, joinLines]

theorem join_endLine {reader : LineReader} (hexact : reader.Exact) (rules : LineRules)
    (lines : List (List Char)) :
    reader.join rules ([] :: lines) =
      (reader.endLine rules).1 ++ (reader.endLine rules).2.join rules lines := by
  obtain ⟨phase, pending⟩ := reader
  cases phase with
  | margin =>
      cases hskips : rules.skips pending <;>
        simp [join, joinLines, endLine, start, hskips, isSkipped, continues]
  | comment => rfl
  | content line escaping =>
      have hline := hexact line escaping rfl
      cases escaping <;> simp [join, joinContent, endLine, start, ← hline]

/-- The margin of a natural line has no part in it. -/
theorem join_margin_gap (rules : LineRules) (pending : Option (List Char)) {c : Char}
    (hgap : isGap c = true) (lines : List (List Char)) :
    joinLines rules pending ((c :: lines.headD []) :: lines.tail) =
      (step rules c ⟨.margin, pending⟩).join rules lines := by
  cases hskips : rules.skips pending with
  | true =>
      have hnone := LineRules.getD_of_skips hskips
      cases lines <;> simp [joinLines, step, start, join, hgap, hskips, hnone, isSkipped,
        LineRules.skips_none]
  | false =>
      obtain ⟨sofar, rfl⟩ := LineRules.exists_of_not_skips hskips
      cases lines <;> simp [joinLines, step, join, hgap, hskips, continues]

theorem join_step (rules : LineRules) (reader : LineReader) (c : Char)
    (lines : List (List Char)) :
    reader.join rules ((c :: lines.headD []) :: lines.tail) =
      (reader.step rules c).join rules lines := by
  obtain ⟨phase, pending⟩ := reader
  cases phase with
  | margin =>
      cases hgap : isGap c with
      | true => exact join_margin_gap rules pending hgap lines
      | false =>
          cases hskipped : rules.skips pending && (decide (c = '#') || decide (c = '!')) <;>
            simp [join, joinLines, joinContent, step, hgap, hskipped, isSkipped]
  | comment => rfl
  | content line escaping => simp [join, step]

end LineReader

theorem naturalLines_cons {c : Char} {rest : List Char} (hfeed : c ≠ '\n')
    (hpair : ∀ after, c = '\r' → rest = '\n' :: after → False) :
    naturalLines (c :: rest) =
      (c :: (naturalLines rest).headD []) :: (naturalLines rest).tail := by
  rw [naturalLines]
  · cases naturalLines rest <;> rfl
  · exact hfeed
  · exact hpair

namespace LineReader

theorem exact_endLine (rules : LineRules) (reader : LineReader) :
    (reader.endLine rules).2.Exact := by
  obtain ⟨phase, pending⟩ := reader
  intro line escaping hphase
  match phase with
  | .margin | .comment | .content _ true | .content _ false => cases hphase

theorem scan_cons {rules : LineRules} (reader : LineReader) {c : Char} {rest : List Char}
    (hfeed : c ≠ '\n') (hpair : ∀ after, c = '\r' → rest = '\n' :: after → False)
    (hreturn : rules.returnEnds = true → c ≠ '\r') :
    reader.scan rules (c :: rest) = (reader.step rules c).scan rules rest := by
  have hgoes : ¬ (c = '\n' || (rules.returnEnds && c = '\r')) = true := by
    cases hends : rules.returnEnds <;> simp_all
  rw [scan, if_neg hgoes]
  exact hpair

/-- A reader finds the logical lines that the natural lines make, if carriage returns end none of
these by themselves. -/
theorem scan_eq_join {rules : LineRules} {reader : LineReader} {text : List Char}
    (hexact : reader.Exact)
    (hreturns : rules.returnEnds = true → returnsBeforeFeeds text = true) :
    reader.scan rules text = reader.join rules (naturalLines text) := by
  induction text using naturalLines.induct generalizing reader with
  | case1 => exact (join_nil hexact rules).symm
  | case2 rest ih | case3 rest ih =>
      rw [naturalLines, join_endLine hexact, ← ih (exact_endLine rules reader)]
      · simp [scan]
      · simpa [returnsBeforeFeeds] using hreturns
  | case4 c rest hfeed hpair _ ih | case5 c rest hfeed hpair _ _ _ ih =>
      have hsplit := fun hends => returnsBeforeFeeds_cons hpair (hreturns hends)
      rw [scan_cons reader hfeed hpair fun hends => (hsplit hends).1,
        naturalLines_cons hfeed hpair, join_step]
      exact ih (hexact.step rules c) fun hends => (hsplit hends).2

theorem scan_feedsOnly (text : List Char) :
    start.scan .feedsOnly text = logicalLines none (naturalLines text) := by
  have hnever : LineRules.feedsOnly.returnEnds = true → returnsBeforeFeeds text = true := nofun
  rw [scan_eq_join exact_start hnever]
  exact joinLines_feedsOnly none (naturalLines text)

end LineReader

/-- A logical line that has begun but is still empty goes on in a natural line that is no blank line
and no comment. The first argument is what a continued line has collected, if there is one. -/
def emptyLinesGoOn : Option (List Char) → List (List Char) → Bool
  | pending, [] => pending != some []
  | pending, natural :: rest =>
    let line := natural.dropWhile isGap
    if (pending.getD []).isEmpty && isSkipped line then pending.isNone && emptyLinesGoOn none rest
    else if continues line then emptyLinesGoOn (some (pending.getD [] ++ line.dropLast)) rest
    else emptyLinesGoOn none rest

theorem joinLines_general {pending : Option (List Char)} {lines : List (List Char)}
    (hgoOn : emptyLinesGoOn pending lines = true) :
    joinLines .general pending lines = logicalLines pending lines := by
  rw [← joinLines_feedsOnly]
  induction lines generalizing pending with
  | nil => rfl
  | cons natural rest ih =>
      simp only [emptyLinesGoOn] at hgoOn
      simp only [joinLines]
      split at hgoOn
      next hskipped =>
        obtain ⟨hnone, hrest⟩ : pending = none ∧ emptyLinesGoOn none rest = true := by
          simpa using hgoOn
        simp_all [LineRules.skips_none]
      next hkept =>
        have hgeneral : (LineRules.general.skips pending && isSkipped (natural.dropWhile isGap))
            = false := by simpa [LineRules.skips, LineRules.general] using hkept
        have hfeeds : (LineRules.feedsOnly.skips pending && isSkipped (natural.dropWhile isGap))
            = false := by
          cases pending <;> simp_all [LineRules.skips, LineRules.feedsOnly]
        simp only [hgeneral, hfeeds]
        split at hgoOn <;> simp_all

namespace LineReader

theorem scan_general {text : List Char} (hreturns : returnsBeforeFeeds text = true)
    (hgoOn : emptyLinesGoOn none (naturalLines text) = true) :
    start.scan .general text = logicalLines none (naturalLines text) := by
  rw [scan_eq_join exact_start fun _ => hreturns]
  exact joinLines_general hgoOn

/-- A carriage return that stands alone ends a line by the general rules only. -/
example : start.scan .general "a\rb".toList = ["a".toList, "b".toList] ∧
    logicalLines none (naturalLines "a\rb".toList) = ["a\rb".toList] := by decide

/-- A comment after a line of a single backslash is one by the general rules only. -/
example : start.scan .general "\\\n# a\nb".toList = ["b".toList] ∧
    logicalLines none (naturalLines "\\\n# a\nb".toList) = ["# a".toList, "b".toList] := by decide

end LineReader

end MemberDiscovery.PropertyText
