import MemberDiscovery.Proofs.Config.LineReader
import MemberDiscovery.Proofs.Config.Spelling

/-! # How a property set may be laid out

The entries of a property set can be written in any order, each on a logical line of its own, with
blank lines and comments anywhere between them. A logical line can go on in the next natural line
between two characters of its key or its value and after the separator. Main statement: whatever
order, spelling and layout is chosen, the text is read back as the property set
(`parse_of_spells`).
-/

namespace MemberDiscovery.PropertyText

def lineEnds : List (List Char) := [['\n'], ['\r', '\n']]

/-- Places where a logical line goes on in the next natural line. -/
inductive Breaks : List Char → Prop where
  | nil : Breaks []
  | cons {ending margin rest : List Char} (hending : ending ∈ lineEnds) (hmargin : margin ⊆ blanks)
      (hrest : Breaks rest) : Breaks ('\\' :: (ending ++ (margin ++ rest)))

/-- The spellings of a key or a value. -/
inductive SpellsText : List Char → List Char → Prop where
  | nil : SpellsText [] []
  | last {c : Char} {token : List Char} (hc : SpellsChar c token) : SpellsText [c] token
  | cons {c next : Char} {token breaks chars text : List Char} (hc : SpellsChar c token)
      (hbreaks : Breaks breaks) (hrest : SpellsText (next :: chars) text) :
      SpellsText (c :: next :: chars) (token ++ (breaks ++ text))

/-- The spellings of an entry, without the end of its last natural line. -/
inductive SpellsEntry (key value : String) : List Char → Prop where
  | line {margin keyText separator breaks valueText : List Char} (hmargin : margin ⊆ blanks)
      (hkey : SpellsText key.toList keyText) (hseparator : Separates key.toList separator)
      (hbreaks : Breaks breaks) (hvalue : SpellsText value.toList valueText) :
      SpellsEntry key value (margin ++ (keyText ++ (separator ++ (breaks ++ valueText))))

/-- A natural line that says nothing, without its end. -/
inductive SkippedLine : List Char → Prop where
  | blank {margin : List Char} (hmargin : margin ⊆ blanks) : SkippedLine margin
  | comment {margin text : List Char} {c : Char} (hmargin : margin ⊆ blanks) (hc : c ∈ commentMarks)
      (htext : '\n' ∉ text) : SkippedLine (margin ++ c :: text)

/-- What follows a line begins with its end, which may also be that of the text. -/
inductive EndsLine : List Char → List Char → Prop where
  | text : EndsLine [] []
  | line {ending : List Char} (hending : ending ∈ lineEnds) (after : List Char) :
      EndsLine (ending ++ after) after

/-- The texts that present entries, in the order in which they do. -/
inductive Spells : List (String × String) → List Char → Prop where
  | nil : Spells [] []
  | skipped {order : List (String × String)} {line rest after : List Char}
      (hline : SkippedLine line) (hend : EndsLine rest after) (hafter : Spells order after) :
      Spells order (line ++ rest)
  | entry {key value : String} {order : List (String × String)} {line rest after : List Char}
      (hline : SpellsEntry key value line) (hend : EndsLine rest after)
      (hafter : Spells order after) : Spells ((key, value) :: order) (line ++ rest)

theorem mem_lineEnds {ending : List Char} :
    ending ∈ lineEnds ↔ ending = ['\n'] ∨ ending = ['\r', '\n'] := by
  simp [lineEnds]

theorem EndsLine.head_not_blank {rest after : List Char} (hend : EndsLine rest after) :
    ∀ c ∈ rest.head?, c ∉ blanks := by
  cases hend with
  | text => simp
  | line hending => rcases mem_lineEnds.mp hending with rfl | rfl <;> simp [blanks]

theorem EndsLine.eq_of_feed {rest after : List Char} (hend : EndsLine ('\n' :: rest) after) :
    rest = after := by
  generalize hfeed : '\n' :: rest = start at hend
  cases hend with
  | text => cases hfeed
  | line hending => rcases mem_lineEnds.mp hending with rfl | rfl <;> simp_all

/-- A spelling begins with a character that has no part in the layout. -/
theorem SpellsText.head {c : Char} {chars text : List Char}
    (htext : SpellsText (c :: chars) text) :
    ∃ first rest, text = first :: rest ∧ first ∉ layoutMarks := by
  obtain ⟨token, after, htoken, rfl⟩ :
      ∃ token after, SpellsChar c token ∧ text = token ++ after := by
    cases htext with
    | last hc => exact ⟨text, [], hc, (List.append_nil text).symm⟩
    | cons hc => exact ⟨_, _, hc, rfl⟩
  have hguarded : Guarded token := by simpa using Guarded.char htoken .nil
  obtain ⟨first, rest, rfl⟩ := List.exists_cons_of_ne_nil htoken.ne_nil
  exact ⟨first, rest ++ after, rfl, hguarded.head_not_mem⟩

theorem SpellsText.head_not_blank {c : Char} {chars text : List Char}
    (htext : SpellsText (c :: chars) text) (rest : List Char) :
    ∀ c ∈ (text ++ rest).head?, c ∉ blanks := by
  obtain ⟨first, more, rfl, hfirst⟩ := htext.head
  have hsubset : blanks ⊆ layoutMarks := by decide
  simpa using fun hmem => hfirst (hsubset hmem)

/-! ## Reading a layout -/

namespace LineReader

theorem not_lineBreak_of_blank {c : Char} (hc : c ∈ blanks) : c ∉ lineBreaks := by
  have hblanks : ∀ c ∈ blanks, c ∉ lineBreaks := by simp [blanks, lineBreaks]
  exact hblanks c hc

theorem not_mem_of_not_special {c : Char} (hc : c ∉ specials) : c ∉ '\\' :: lineBreaks := by
  have hsub : '\\' :: lineBreaks ⊆ specials := by decide
  exact fun hmem => hc (hsub hmem)

/-- A reader that has taken some characters of a logical line, with no escape open. -/
def within (sofar : List Char) : LineReader := ⟨.content sofar false, none⟩

theorem scan_next (reader : LineReader) {c : Char} {rest : List Char} (hfeed : c ≠ '\n')
    (hpair : ∀ after, c = '\r' → rest = '\n' :: after → False) :
    reader.scan .feedsOnly (c :: rest) = (reader.step .feedsOnly c).scan .feedsOnly rest :=
  scan_cons reader hfeed hpair nofun

theorem scan_char (reader : LineReader) {c : Char} (hc : c ∉ lineBreaks) (rest : List Char) :
    reader.scan .feedsOnly (c :: rest) = (reader.step .feedsOnly c).scan .feedsOnly rest := by
  obtain ⟨hfeed, hreturn⟩ : c ≠ '\n' ∧ c ≠ '\r' := by simpa [lineBreaks] using hc
  exact scan_next reader hfeed fun _ hc _ => hreturn hc

theorem scan_ending (reader : LineReader) {ending : List Char} (hending : ending ∈ lineEnds)
    (rest : List Char) :
    reader.scan .feedsOnly (ending ++ rest) =
      (reader.endLine .feedsOnly).1 ++ (reader.endLine .feedsOnly).2.scan .feedsOnly rest := by
  rcases mem_lineEnds.mp hending with rfl | rfl <;> simp [scan]

/-- A line ends alike whether the text does or not, if no escape is open. -/
theorem scan_end {reader : LineReader} (hreader : reader.endLine .feedsOnly = (reader.close, start))
    {rest after : List Char} (hend : EndsLine rest after) :
    reader.scan .feedsOnly rest = reader.close ++ start.scan .feedsOnly after := by
  cases hend with
  | text => simp [scan, start, close]
  | line hending => rw [scan_ending _ hending, hreader]

theorem endLine_merge (rules : LineRules) (sofar : List Char) {line : List Char}
    {escaping : Bool} (hline : line ≠ []) :
    endLine rules ⟨.content line escaping, some sofar⟩ =
      endLine rules ⟨.content (sofar ++ line) escaping, none⟩ := by
  cases escaping <;> simp [endLine, List.dropLast_append_of_ne_nil hline]

/-- It makes no difference which natural lines the characters so far have come from. -/
theorem scan_merge (sofar : List Char) {line : List Char} {escaping : Bool} (hline : line ≠ [])
    (text : List Char) :
    scan .feedsOnly ⟨.content line escaping, some sofar⟩ text =
      scan .feedsOnly ⟨.content (sofar ++ line) escaping, none⟩ text := by
  induction text using naturalLines.induct generalizing line escaping with
  | case1 => cases escaping <;> simp [scan, close, List.dropLast_append_of_ne_nil hline]
  | case2 rest | case3 rest => simp [scan, endLine_merge .feedsOnly sofar hline]
  | case4 c rest hfeed hpair _ ih | case5 c rest hfeed hpair _ _ _ ih =>
      rw [scan_next _ hfeed hpair, scan_next _ hfeed hpair]
      simp only [step, List.append_assoc]
      exact ih (List.append_ne_nil_of_left_ne_nil hline _)

theorem scan_blanks (pending : Option (List Char)) {margin : List Char} (hmargin : margin ⊆ blanks)
    (rest : List Char) :
    scan .feedsOnly ⟨.margin, pending⟩ (margin ++ rest) =
      scan .feedsOnly ⟨.margin, pending⟩ rest := by
  induction margin with
  | nil => rfl
  | cons c margin ih =>
      obtain ⟨hc, hmargin⟩ := List.cons_subset.mp hmargin
      have hstep : step .feedsOnly c ⟨.margin, pending⟩ = ⟨.margin, pending⟩ := by
        cases pending <;> simp [step, isGap_iff.mpr hc, LineRules.skips, LineRules.feedsOnly, start]
      rw [List.cons_append, scan_char _ (not_lineBreak_of_blank hc), hstep, ih hmargin]

theorem scan_within_char {c : Char} (hc : c ∉ '\\' :: lineBreaks) (sofar rest : List Char) :
    (within sofar).scan .feedsOnly (c :: rest) =
      (within (sofar ++ [c])).scan .feedsOnly rest := by
  obtain ⟨hescape, hbreak⟩ : c ≠ '\\' ∧ c ∉ lineBreaks := by simpa using hc
  rw [scan_char _ hbreak]
  simp [within, step, hescape]

/-- A logical line that goes on does so with the first character that is no blank. -/
theorem scan_continued (sofar : List Char) {rest : List Char}
    (hrest : ∀ c ∈ rest.head?, c ∉ blanks) :
    scan .feedsOnly ⟨.margin, some sofar⟩ rest = (within sofar).scan .feedsOnly rest := by
  have hkept : LineRules.feedsOnly.skips (some sofar) = false := rfl
  induction rest using naturalLines.induct with
  | case1 => rfl
  | case2 rest | case3 rest => simp [scan, endLine, within, hkept]
  | case4 c rest hfeed hpair | case5 c rest hfeed hpair =>
      have hgap : isGap c = false := by
        simpa [← isGap_iff] using hrest c rfl
      have hmargin : step .feedsOnly c ⟨.margin, some sofar⟩ =
          ⟨.content [c] (c = '\\'), some sofar⟩ := by simp [step, hgap, hkept]
      have hwithin : step .feedsOnly c (within sofar) =
          ⟨.content (sofar ++ [c]) (c = '\\'), none⟩ := by simp [step, within]
      rw [scan_next _ hfeed hpair, scan_next _ hfeed hpair, hmargin, hwithin]
      exact scan_merge sofar (List.cons_ne_nil c []) rest

theorem scan_breaks {breaks : List Char} (hbreaks : Breaks breaks) (sofar : List Char)
    {rest : List Char} (hrest : ∀ c ∈ rest.head?, c ∉ blanks) :
    (within sofar).scan .feedsOnly (breaks ++ rest) = (within sofar).scan .feedsOnly rest := by
  induction hbreaks with
  | nil => rfl
  | @cons ending margin breaks hending hmargin hbreaks ih =>
      have hnext : ∀ c ∈ (breaks ++ rest).head?, c ∉ blanks := by
        cases hbreaks with
        | nil => exact hrest
        | cons => simp [blanks]
      rw [List.cons_append, scan_char _ (by decide), List.append_assoc, scan_ending _ hending,
        List.append_assoc]
      have hline : endLine .feedsOnly (step .feedsOnly '\\' (within sofar)) =
          ([], ⟨.margin, some sofar⟩) := by simp [within, step, endLine]
      rw [hline, List.nil_append, scan_blanks (some sofar) hmargin, scan_continued sofar hnext, ih]

theorem scan_separator {key separator : List Char} (hseparator : Separates key separator)
    (sofar rest : List Char) :
    (within sofar).scan .feedsOnly (separator ++ rest) =
      (within (sofar ++ separator)).scan .feedsOnly rest := by
  have hplain : ∀ c ∈ signs ++ blanks, c ∉ '\\' :: lineBreaks := by
    simp [signs, blanks, lineBreaks]
  have hsubset := hseparator.subset
  clear hseparator
  induction separator generalizing sofar with
  | nil => simp
  | cons c separator ih =>
      obtain ⟨hc, hsubset⟩ := List.cons_subset.mp hsubset
      rw [List.cons_append, scan_within_char (hplain c hc), ih (sofar ++ [c]) hsubset,
        List.append_assoc, List.singleton_append]

theorem scan_guarded {text : List Char} (htext : Guarded text) (sofar rest : List Char) :
    (within sofar).scan .feedsOnly (text ++ rest) =
      (within (sofar ++ text)).scan .feedsOnly rest := by
  induction htext generalizing sofar with
  | nil => simp
  | plain hc _ ih =>
      rw [List.cons_append, scan_within_char (not_mem_of_not_special hc), ih]
      simp
  | @escaped c text hc _ ih =>
      rw [List.cons_append, List.cons_append, scan_char _ (by decide), scan_char _ hc]
      have hline : step .feedsOnly c (step .feedsOnly '\\' (within sofar)) =
          within (sofar ++ ['\\', c]) := by simp [within, step]
      rw [hline, ih]
      simp

theorem scan_text {chars text : List Char} (htext : SpellsText chars text) :
    ∃ plain, Spelled chars plain ∧ ∀ sofar rest,
      (within sofar).scan .feedsOnly (text ++ rest) =
        (within (sofar ++ plain)).scan .feedsOnly rest := by
  induction htext with
  | nil => exact ⟨[], .nil, fun sofar rest => by simp⟩
  | @last c token hc =>
      have hplain : Spelled [c] token := by simpa using Spelled.cons hc .nil
      exact ⟨token, hplain, scan_guarded hplain.guarded⟩
  | @cons c next token breaks chars text hc hbreaks hrest ih =>
      obtain ⟨plain, hplain, hscan⟩ := ih
      refine ⟨token ++ plain, .cons hc hplain, ?_⟩
      intro sofar rest
      have htoken : Guarded token := by simpa using Guarded.char hc .nil
      rw [List.append_assoc, List.append_assoc, scan_guarded htoken,
        scan_breaks hbreaks _ (hrest.head_not_blank rest), hscan, List.append_assoc]

theorem scan_within_end (sofar : List Char) {rest after : List Char} (hend : EndsLine rest after) :
    (within sofar).scan .feedsOnly rest = sofar :: start.scan .feedsOnly after :=
  scan_end rfl hend

theorem scan_comment {text rest after : List Char} (htext : '\n' ∉ text)
    (hend : EndsLine rest after) (pending : Option (List Char)) :
    scan .feedsOnly ⟨.comment, pending⟩ (text ++ rest) = start.scan .feedsOnly after := by
  induction text with
  | nil => exact scan_end rfl hend
  | cons c text ih =>
      obtain ⟨hc, htext⟩ : c ≠ '\n' ∧ '\n' ∉ text := by simpa [eq_comm] using htext
      by_cases hpair : ∃ more, c = '\r' ∧ text ++ rest = '\n' :: more
      · -- A carriage return at the end of a comment belongs to the end of its line.
        obtain ⟨more, rfl, hmore⟩ := hpair
        obtain rfl : text = [] := by
          cases text with
          | nil => rfl
          | cons d text => exact absurd (List.cons.inj hmore).1 (by simp_all [eq_comm])
        rw [List.nil_append] at hmore
        subst hmore
        obtain rfl := hend.eq_of_feed
        simp [scan, endLine]
      · rw [List.cons_append, scan_next _ hc fun more hreturn hmore => hpair ⟨more, hreturn, hmore⟩]
        exact ih htext

theorem scan_skipped {line rest after : List Char} (hline : SkippedLine line)
    (hend : EndsLine rest after) :
    start.scan .feedsOnly (line ++ rest) = start.scan .feedsOnly after := by
  cases hline with
  | blank hmargin =>
      rw [start, scan_blanks none hmargin]
      exact scan_end rfl hend
  | @comment margin text c hmargin hc htext =>
      have hmark : step .feedsOnly c start = ⟨.comment, none⟩ := by
        have hcases : c = '#' ∨ c = '!' := by simpa [commentMarks] using hc
        rcases hcases with rfl | rfl <;> rfl
      have hbreak : c ∉ lineBreaks := by
        have hmarks : ∀ c ∈ commentMarks, c ∉ lineBreaks := by
          simp [commentMarks, lineBreaks]
        exact hmarks c hc
      rw [List.append_assoc, start, scan_blanks none hmargin, List.cons_append,
        scan_char _ hbreak, ← start, hmark, scan_comment htext hend]

theorem scan_start {c : Char} (hc : c ∉ commentMarks ++ blanks ++ lineBreaks) (rest : List Char) :
    start.scan .feedsOnly (c :: rest) = (within []).scan .feedsOnly (c :: rest) := by
  have hgap : isGap c = false := by
    rw [← Bool.not_eq_true, isGap_iff]
    exact fun hmem => hc (by simp [hmem])
  have hmark : ¬ (c = '#' ∨ c = '!') :=
    fun hmark => hc (by simp [commentMarks, ← or_assoc, hmark])
  have hbreak : c ∉ lineBreaks := fun hmem => hc (by simp [hmem])
  rw [scan_char _ hbreak, scan_char _ hbreak]
  simp [step, start, within, hgap, hmark]

/-- The logical line of an entry, from its first character on. -/
theorem scan_within_entry {key value : String}
    {keyText separator breaks valueText rest after : List Char}
    (hkey : SpellsText key.toList keyText) (hseparator : Separates key.toList separator)
    (hbreaks : Breaks breaks) (hvalue : SpellsText value.toList valueText)
    (hend : EndsLine rest after) :
    ∃ logical, PropertyText.entry logical = .ok (key, value) ∧
      (within []).scan .feedsOnly (keyText ++ (separator ++ (breaks ++ (valueText ++ rest)))) =
        logical :: start.scan .feedsOnly after := by
  obtain ⟨plainKey, hplainKey, hscanKey⟩ := scan_text hkey
  obtain ⟨plainValue, hplainValue, hscanValue⟩ := scan_text hvalue
  have hnext : ∀ c ∈ (valueText ++ rest).head?, c ∉ blanks := by
    cases hchars : value.toList with
    | nil =>
        rw [hchars] at hvalue
        cases hvalue
        exact hend.head_not_blank
    | cons c chars => exact (hchars ▸ hvalue).head_not_blank rest
  refine ⟨_, entry_of_spelled hplainKey hseparator hplainValue, ?_⟩
  rw [hscanKey, scan_separator hseparator, scan_breaks hbreaks _ hnext, hscanValue,
    scan_within_end _ hend, List.nil_append]

theorem scan_entry {key value : String} {line rest after : List Char}
    (hline : SpellsEntry key value line) (hend : EndsLine rest after) :
    ∃ logical, PropertyText.entry logical = .ok (key, value) ∧
      start.scan .feedsOnly (line ++ rest) = logical :: start.scan .feedsOnly after := by
  obtain ⟨hmargin, hkey, hseparator, hbreaks, hvalue⟩ := hline
  simp only [List.append_assoc]
  rw [start, scan_blanks none hmargin, ← start]
  cases hchars : key.toList with
  | nil =>
      rw [hchars] at hkey hseparator
      cases hkey
      cases hseparator with
      | @sign before after c hbefore hc hafter =>
          -- The blanks before the sign are part of the margin.
          have hnil : SpellsText key.toList [] := hchars ▸ .nil
          have hsign : Separates key.toList (c :: after) := by
            simpa using Separates.sign (List.nil_subset blanks) hc hafter
          obtain ⟨logical, hentry, hscan⟩ := scan_within_entry hnil hsign hbreaks hvalue hend
          refine ⟨logical, hentry, ?_⟩
          have hstart : ∀ c ∈ signs, c ∉ commentMarks ++ blanks ++ lineBreaks := by
            simp [signs, commentMarks, blanks, lineBreaks]
          rw [List.nil_append, List.append_assoc, start, scan_blanks none hbefore, ← start,
            List.cons_append, scan_start (hstart c hc), ← List.cons_append, ← hscan,
            List.nil_append]
      | blank hne => exact absurd rfl hne
  | cons c chars =>
      obtain ⟨first, more, hfirst, hstart⟩ := (hchars ▸ hkey).head
      obtain ⟨logical, hentry, hscan⟩ := scan_within_entry hkey hseparator hbreaks hvalue hend
      refine ⟨logical, hentry, ?_⟩
      have hsubset : commentMarks ++ blanks ++ lineBreaks ⊆ layoutMarks := by decide
      subst hfirst
      rw [List.cons_append, scan_start fun hmem => hstart (hsubset hmem), ← List.cons_append, hscan]

end LineReader

theorem mapM_entry_of_spells {order : List (String × String)} {text : List Char}
    (htext : Spells order text) :
    (LineReader.start.scan .feedsOnly text).mapM entry = .ok order := by
  induction htext with
  | nil => rfl
  | skipped hline hend _ ih => rw [LineReader.scan_skipped hline hend, ih]
  | entry hline hend _ ih =>
      obtain ⟨logical, hentry, hscan⟩ := LineReader.scan_entry hline hend
      rw [hscan, List.mapM_cons, hentry, ih]
      rfl

theorem parse_of_spells {properties : PropertySet} {order : List (String × String)} {text : String}
    (horder : order.Perm properties.toList) (htext : Spells order text.toList) :
    parse text = .ok properties := by
  have hentries : entries text = .ok order := by
    rw [entries, ← LineReader.scan_feedsOnly, mapM_entry_of_spells htext]
  rw [parse, hentries]
  exact congrArg Except.ok (Table.ofList_of_perm horder)

theorem parse_of_spells_continued :
    let properties : PropertySet := Table.ofList [("a", ""), ("k=", "é")]
    let order := [("k=", "é"), ("a", "")]
    let text := "# note\r\nk\\\n  \\==\\u00E9\na "
    order.Perm properties.toList ∧ Spells order text.toList ∧ parse text = .ok properties := by
  intro properties order text
  have horder : order.Perm properties.toList := .swap ("a", "") ("k=", "é") []
  have hbreaks : Breaks ('\\' :: (['\n'] ++ ([' ', ' '] ++ []))) :=
    .cons (by decide) (by decide) .nil
  have hkey : SpellsText "k=".toList (['k'] ++ (['\\', '\n', ' ', ' '] ++ ['\\', '='])) :=
    .cons (.raw (by decide)) hbreaks (.last (.itself (by decide)))
  have hunit : SpellsUnit (((0 * 16 + 0) * 16 + 14) * 16 + 9) ['\\', 'u', '0', '0', 'E', '9'] :=
    .digits (.inl rfl) (.inl rfl) (.inr rfl) (.inl rfl)
  have hequals : Separates "k=".toList ([] ++ '=' :: []) :=
    .sign (by decide) (by decide) (by decide)
  have hfirst : SpellsEntry "k=" "é" "k\\\n  \\==\\u00E9".toList :=
    .line (List.nil_subset _) hkey hequals .nil (.last (.unit rfl hunit))
  have hblank : Separates "a".toList [' '] := .blank (by decide) (by decide) (by decide)
  have hname : SpellsText "a".toList ['a'] := .last (.raw (by decide))
  have hempty : SpellsText "".toList [] := .nil
  have hsecond : SpellsEntry "a" "" "a ".toList :=
    .line (List.nil_subset _) hname hblank .nil hempty
  have hnote : SkippedLine ([] ++ '#' :: " note".toList) :=
    .comment (List.nil_subset _) (by decide) (by decide)
  have hfeed : ['\n'] ∈ lineEnds := by decide
  have hreturnFeed : ['\r', '\n'] ∈ lineEnds := by decide
  have htext : Spells order text.toList := by
    have hlines := Spells.skipped hnote (.line hreturnFeed _) <| .entry hfirst (.line hfeed _) <|
      .entry hsecond .text .nil
    have hparts : text.toList = [] ++ '#' :: " note".toList ++ (['\r', '\n'] ++
        ("k\\\n  \\==\\u00E9".toList ++ (['\n'] ++ ("a ".toList ++ [])))) := by decide
    rw [hparts]
    exact hlines
  exact ⟨horder, htext, parse_of_spells horder htext⟩

end MemberDiscovery.PropertyText
