import Mathlib.Data.List.Induction
import Mathlib.Data.List.TakeWhile
import MemberDiscovery.Proofs.Config.Layout

/-! # What logical lines are

A text consists of natural lines, and these make logical lines. Both are described here by what they
look like and not by how they are found. Main statement: the logical lines of a text are those that
are read from it (`lines_iff`).
-/

namespace MemberDiscovery.PropertyText

/-! ## What is escaped -/

/-- What follows is escaped: the backslashes before it are odd in number. -/
def Escapes (before : List Char) : Prop :=
  ∃ front half, before = front ++ List.replicate (2 * half + 1) '\\' ∧ ¬ ['\\'] <:+ front

theorem escapes_iff {before : List Char} : Escapes before ↔ continues before = true := by
  unfold continues
  rw [decide_eq_true_iff]
  constructor
  · rintro ⟨front, half, rfl, hfront⟩
    have hstop : front.reverse.takeWhile (· = '\\') = [] := by
      cases hreverse : front.reverse with
      | nil => rfl
      | cons c rest =>
          have hsuffix : ¬ ['\\'] <+: c :: rest := by
            rw [← hreverse]
            exact fun hstart => hfront (List.reverse_prefix.mp (by simpa using hstart))
          refine List.takeWhile_cons_of_neg ?_
          rw [decide_eq_true_iff]
          rintro rfl
          exact hsuffix ⟨rest, rfl⟩
    rw [List.reverse_append, List.reverse_replicate, List.takeWhile_append_of_pos (by simp), hstop]
    simp
  · intro hodd
    generalize hrun : before.reverse.takeWhile (· = '\\') = run at hodd
    have hall : run = List.replicate run.length '\\' := by
      refine List.eq_replicate_of_mem fun c hc => ?_
      rw [← hrun] at hc
      simpa using List.mem_takeWhile_imp hc
    refine ⟨(before.reverse.dropWhile (· = '\\')).reverse, run.length / 2, ?_, ?_⟩
    · have hlength : 2 * (run.length / 2) + 1 = run.length := by omega
      have hsplit : run ++ before.reverse.dropWhile (· = '\\') = before.reverse := by
        rw [← hrun, List.takeWhile_append_dropWhile]
      rw [hlength, ← List.reverse_replicate, ← List.reverse_append, ← hall, hsplit,
        List.reverse_reverse]
    · intro hlast
      have hfirst : ['\\'] <+: before.reverse.dropWhile (· = '\\') :=
        List.reverse_suffix.mp (by simpa using hlast)
      obtain ⟨rest, hrest⟩ := hfirst
      have hnot := List.head?_dropWhile_not (fun c => decide (c = '\\')) before.reverse
      rw [← hrest] at hnot
      simp at hnot

theorem not_escapes_nil : ¬ Escapes [] := by simp [escapes_iff, continues]

theorem escapes_concat {before : List Char} {c : Char} :
    Escapes (before ++ [c]) ↔ c = '\\' ∧ ¬ Escapes before := by
  simp [escapes_iff, continues_append_singleton]

/-- Where no escape is open, it does not matter what came before. -/
theorem escapes_append {front rest : List Char} (hfront : ¬ Escapes front) :
    Escapes (front ++ rest) ↔ Escapes rest := by
  induction rest using List.reverseRecOn with
  | nil => simpa [not_escapes_nil] using hfront
  | append_singleton rest c ih =>
      rw [← List.append_assoc, escapes_concat, escapes_concat, ih]

theorem escapes_cons {c : Char} (hc : c ≠ '\\') {rest : List Char} :
    Escapes (c :: rest) ↔ Escapes rest := by
  have hplain : ¬ Escapes ([] ++ [c]) := fun hescapes => hc (escapes_concat.mp hescapes).1
  exact escapes_append hplain

theorem escapes_cons_cons {c : Char} {rest : List Char} :
    Escapes ('\\' :: c :: rest) ↔ Escapes rest := by
  have hescape : Escapes ([] ++ ['\\']) := escapes_concat.mpr ⟨rfl, not_escapes_nil⟩
  have hpair : ¬ Escapes ([] ++ ['\\'] ++ [c]) :=
    fun hescapes => (escapes_concat.mp hescapes).2 hescape
  exact escapes_append hpair

theorem not_escapes_of_not_mem {text : List Char} (htext : '\\' ∉ text) : ¬ Escapes text := by
  rintro ⟨front, half, rfl, -⟩
  exact htext (List.mem_append_right _ (by simp))

/-- The backslash that escapes is not escaped itself. -/
theorem Escapes.exists_eq {before : List Char} (hescapes : Escapes before) :
    ∃ front, before = front ++ ['\\'] ∧ ¬ Escapes front := by
  cases before using List.reverseRecOn with
  | nil => exact absurd hescapes not_escapes_nil
  | append_singleton front c =>
      obtain ⟨rfl, hfront⟩ := escapes_concat.mp hescapes
      exact ⟨front, rfl, hfront⟩

/-! ## Natural lines -/

/-- The natural lines of a text, without their ends. -/
inductive NaturalLines : List Char → List (List Char) → Prop where
  | nil : NaturalLines [] []
  | last {line : List Char} (hne : line ≠ []) (hline : '\n' ∉ line) : NaturalLines line [line]
  | ended {line ending rest : List Char} {lines : List (List Char)} (hline : '\n' ∉ line)
      (hending : ending ∈ lineEnds) (hreturn : ending = ['\n'] → ¬ ['\r'] <:+ line)
      (hrest : NaturalLines rest lines) : NaturalLines (line ++ (ending ++ rest)) (line :: lines)

theorem NaturalLines.not_mem {text : List Char} {lines : List (List Char)}
    (htext : NaturalLines text lines) : ∀ line ∈ lines, '\n' ∉ line := by
  induction htext with
  | nil => simp
  | last _ hline => simpa using hline
  | ended hline _ _ _ ih => exact List.forall_mem_cons.mpr ⟨hline, ih⟩

/-- A character that ends no line belongs to the line that follows it. -/
theorem NaturalLines.cons {c : Char} {rest : List Char} {lines : List (List Char)}
    (hrest : NaturalLines rest lines) (hfeed : c ≠ '\n')
    (hpair : ∀ after, c = '\r' → rest = '\n' :: after → False) :
    NaturalLines (c :: rest) ((c :: lines.headD []) :: lines.tail) := by
  cases hrest with
  | nil => exact .last (List.cons_ne_nil c []) (by simpa [eq_comm] using hfeed)
  | last hne hline => exact .last (List.cons_ne_nil c rest) (by simp [hline, hfeed.symm])
  | @ended line ending rest lines hline hending hreturn hrest =>
      have hline : '\n' ∉ c :: line := by simp [hline, hfeed.symm]
      refine .ended hline hending ?_ hrest
      intro hends hsuffix
      rcases List.suffix_cons_iff.mp hsuffix with hwhole | hsuffix
      · obtain ⟨rfl, rfl⟩ := List.cons.inj hwhole
        exact hpair rest rfl (by rw [hends]; rfl)
      · exact hreturn hends hsuffix

theorem naturalLines_append {line ending rest : List Char} (hline : '\n' ∉ line)
    (hending : ending ∈ lineEnds) (hreturn : ending = ['\n'] → ¬ ['\r'] <:+ line) :
    naturalLines (line ++ (ending ++ rest)) = line :: naturalLines rest := by
  induction line with
  | nil => rcases mem_lineEnds.mp hending with rfl | rfl <;> simp [naturalLines]
  | cons c line ih =>
      obtain ⟨hfeed, hline⟩ : c ≠ '\n' ∧ '\n' ∉ line := by simpa [eq_comm] using hline
      have hrest : ending = ['\n'] → ¬ ['\r'] <:+ line := fun hends hsuffix =>
        hreturn hends (hsuffix.trans (List.suffix_cons c line))
      rw [List.cons_append, naturalLines_cons hfeed, ih hline hrest]
      · rfl
      · -- A carriage return before a line feed would have been taken along.
        rintro after rfl hafter
        cases line with
        | nil => rcases mem_lineEnds.mp hending with rfl | rfl <;> simp_all
        | cons next line => simp_all

theorem naturalLines_of_not_mem {line : List Char} (hne : line ≠ []) (hline : '\n' ∉ line) :
    naturalLines line = [line] := by
  induction line with
  | nil => exact absurd rfl hne
  | cons c rest ih =>
      obtain ⟨hfeed, hrest⟩ : c ≠ '\n' ∧ '\n' ∉ rest := by simpa [eq_comm] using hline
      rw [naturalLines_cons hfeed fun after _ hafter => hrest (by simp [hafter])]
      cases rest with
      | nil => rfl
      | cons next rest => rw [ih (List.cons_ne_nil next rest) hrest]; rfl

theorem naturalLines_iff {text : List Char} {lines : List (List Char)} :
    NaturalLines text lines ↔ lines = naturalLines text := by
  constructor
  · intro htext
    induction htext with
    | nil => rfl
    | last hne hline => exact (naturalLines_of_not_mem hne hline).symm
    | ended hline hending hreturn _ ih => rw [naturalLines_append hline hending hreturn, ih]
  · rintro rfl
    induction text using naturalLines.induct with
    | case1 => exact .nil
    | case2 rest ih =>
        rw [naturalLines]
        exact @NaturalLines.ended [] ['\n'] rest _ (by simp) (by decide) (by simp) ih
    | case3 rest ih =>
        rw [naturalLines]
        exact @NaturalLines.ended [] ['\r', '\n'] rest _ (by simp) (by decide) (by simp) ih
    | case4 c rest hfeed hpair _ ih | case5 c rest hfeed hpair _ _ _ ih =>
        rw [naturalLines_cons hfeed hpair]
        exact ih.cons hfeed hpair

/-! ## Logical lines -/

/-- A natural line without the blanks at its beginning. -/
inductive Content : List Char → List Char → Prop where
  | margin {margin content : List Char} (hmargin : margin ⊆ blanks)
      (hcontent : ∀ c ∈ content.head?, c ∉ blanks) : Content (margin ++ content) content

/-- Natural lines each of which goes on in the next one, and what they give together. -/
inductive Continued : List (List Char) → List Char → Prop where
  | nil : Continued [] []
  | cons {natural content text : List Char} {naturals : List (List Char)}
      (hcontent : Content natural (content ++ ['\\'])) (hescapes : ¬ Escapes content)
      (hrest : Continued naturals text) : Continued (natural :: naturals) (content ++ text)

/-- The logical lines that natural lines make. What begins as a blank line or a comment is none. -/
inductive LogicalLines : List (List Char) → List (List Char) → Prop where
  | nil : LogicalLines [] []
  | skipped {natural : List Char} {naturals lines : List (List Char)}
      (hskipped : SkippedLine natural) (hrest : LogicalLines naturals lines) :
      LogicalLines (natural :: naturals) lines
  | line {before naturals lines : List (List Char)} {text natural content : List Char}
      (hcontinued : Continued before text) (hcontent : Content natural content)
      (hends : ¬ Escapes content)
      (hkept : ∀ first ∈ (before ++ [natural]).head?, ¬ SkippedLine first)
      (hrest : LogicalLines naturals lines) :
      LogicalLines (before ++ natural :: naturals) ((text ++ content) :: lines)
  | unfinished {before : List (List Char)} {text : List Char} (hcontinued : Continued before text)
      (hne : before ≠ []) (hkept : ∀ first ∈ before.head?, ¬ SkippedLine first) :
      LogicalLines before [text]

/-- The logical lines of a text. -/
def Lines (text : List Char) (lines : List (List Char)) : Prop :=
  ∃ naturals, NaturalLines text naturals ∧ LogicalLines naturals lines

theorem Content.dropWhile_eq {natural content : List Char} (hcontent : Content natural content) :
    natural.dropWhile isGap = content := by
  obtain ⟨hmargin, hhead⟩ := hcontent
  rw [dropWhile_blanks hmargin]
  cases content with
  | nil => rfl
  | cons c rest =>
      have hgap : ¬ isGap c = true := fun hgap => hhead c rfl (isGap_iff.mp hgap)
      exact List.dropWhile_cons_of_neg hgap

theorem content_dropWhile (natural : List Char) : Content natural (natural.dropWhile isGap) := by
  have hsplit := List.takeWhile_append_dropWhile (p := isGap) (l := natural)
  have hmargin : natural.takeWhile isGap ⊆ blanks :=
    fun c hc => isGap_iff.mp (List.mem_takeWhile_imp hc)
  have hcontent : ∀ c ∈ (natural.dropWhile isGap).head?, c ∉ blanks := by
    intro c hc hblank
    have hnot := List.head?_dropWhile_not isGap natural
    rw [Option.mem_def.mp hc] at hnot
    simp [isGap_iff.mpr hblank] at hnot
  simpa [hsplit] using Content.margin hmargin hcontent

theorem skippedLine_iff {natural : List Char} (hfeed : '\n' ∉ natural) :
    SkippedLine natural ↔ isSkipped (natural.dropWhile isGap) = true := by
  constructor
  · intro hskipped
    cases hskipped with
    | blank hmargin =>
        have hempty : natural.dropWhile isGap = [] := by simpa using dropWhile_blanks hmargin []
        rw [hempty]
        rfl
    | @comment margin text c hmargin hc htext =>
        have hgap : ∀ c ∈ commentMarks, isGap c = false := by simp [commentMarks, isGap]
        rw [dropWhile_blanks hmargin, List.dropWhile_cons_of_neg (by simp [hgap c hc])]
        simpa [isSkipped, commentMarks] using hc
  · intro hskipped
    have hcontent := content_dropWhile natural
    generalize natural.dropWhile isGap = content at hskipped hcontent
    obtain ⟨hmargin⟩ := hcontent
    cases content with
    | nil => exact .blank (by simpa using hmargin)
    | cons c text =>
        have hc : c ∈ commentMarks := by simpa [isSkipped, commentMarks] using hskipped
        have htext : '\n' ∉ text := fun hmem =>
          hfeed (List.mem_append_right _ (List.mem_cons_of_mem _ hmem))
        exact .comment hmargin hc htext

theorem Continued.concat {before : List (List Char)} {text natural content : List Char}
    (hcontinued : Continued before text) (hcontent : Content natural (content ++ ['\\']))
    (hescapes : ¬ Escapes content) : Continued (before ++ [natural]) (text ++ content) := by
  induction hcontinued with
  | nil => simpa using Continued.cons hcontent hescapes .nil
  | cons hfirst hopen _ ih =>
      rw [List.append_assoc]
      exact .cons hfirst hopen ih

section Join

variable {pending : Option (List Char)} {natural content : List Char}

/-- A natural line that is not skipped may go on in the next one. -/
theorem logicalLines_goes_on (hcontent : Content natural (content ++ ['\\']))
    (hescapes : ¬ Escapes content)
    (hkept : pending = none → isSkipped (natural.dropWhile isGap) = false)
    (rest : List (List Char)) :
    logicalLines pending (natural :: rest) =
      logicalLines (some (pending.getD [] ++ content)) rest := by
  have hgoes : continues (content ++ ['\\']) = true :=
    escapes_iff.mp (escapes_concat.mpr ⟨rfl, hescapes⟩)
  rw [hcontent.dropWhile_eq] at hkept
  cases pending with
  | none => simp [logicalLines, hcontent.dropWhile_eq, hkept rfl, hgoes]
  | some sofar => simp [logicalLines, hcontent.dropWhile_eq, hgoes]

theorem logicalLines_ends (hcontent : Content natural content) (hends : ¬ Escapes content)
    (hkept : pending = none → isSkipped (natural.dropWhile isGap) = false)
    (rest : List (List Char)) :
    logicalLines pending (natural :: rest) =
      (pending.getD [] ++ content) :: logicalLines none rest := by
  rw [escapes_iff, Bool.not_eq_true] at hends
  rw [hcontent.dropWhile_eq] at hkept
  cases pending with
  | none => simp [logicalLines, hcontent.dropWhile_eq, hkept rfl, hends]
  | some sofar => simp [logicalLines, hcontent.dropWhile_eq, hends]

theorem logicalLines_line {before : List (List Char)} {text : List Char}
    (hcontinued : Continued before text) (hcontent : Content natural content)
    (hends : ¬ Escapes content)
    (hkept : pending = none →
      ∀ first ∈ (before ++ [natural]).head?, isSkipped (first.dropWhile isGap) = false)
    (rest : List (List Char)) :
    logicalLines pending (before ++ natural :: rest) =
      (pending.getD [] ++ (text ++ content)) :: logicalLines none rest := by
  induction hcontinued generalizing pending with
  | nil => exact logicalLines_ends hcontent hends (fun hnone => hkept hnone _ rfl) rest
  | cons hfirst hescapes _ ih =>
      rw [List.cons_append, logicalLines_goes_on hfirst hescapes fun hnone => hkept hnone _ rfl,
        ih (by simp)]
      simp

theorem logicalLines_unfinished {before : List (List Char)} {text : List Char}
    (hcontinued : Continued before text)
    (hkept : pending = none →
      before ≠ [] ∧ ∀ first ∈ before.head?, isSkipped (first.dropWhile isGap) = false) :
    logicalLines pending before = [pending.getD [] ++ text] := by
  induction hcontinued generalizing pending with
  | nil =>
      cases pending with
      | none => exact absurd rfl (hkept rfl).1
      | some sofar => simp [logicalLines]
  | cons hfirst hescapes _ ih =>
      rw [logicalLines_goes_on hfirst hescapes fun hnone => (hkept hnone).2 _ rfl, ih (by simp)]
      simp

end Join

/-- The lines that are read are logical lines, also if one of them has begun before. -/
theorem logicalLines_sound {naturals : List (List Char)}
    (hfeeds : ∀ natural ∈ naturals, '\n' ∉ natural) :
    LogicalLines naturals (logicalLines none naturals) ∧
      ∀ before text, Continued before text → before ≠ [] →
        (∀ first ∈ before.head?, ¬ SkippedLine first) →
          LogicalLines (before ++ naturals) (logicalLines (some text) naturals) := by
  induction naturals with
  | nil =>
      refine ⟨.nil, fun before text hcontinued hne hkept => ?_⟩
      rw [List.append_nil]
      exact .unfinished hcontinued hne hkept
  | cons natural rest ih =>
      obtain ⟨hfeed, hfeeds⟩ := List.forall_mem_cons.mp hfeeds
      obtain ⟨hfresh, hbegun⟩ := ih hfeeds
      have hcontent := content_dropWhile natural
      -- A natural line that is not skipped ends a logical line or continues it.
      have hnext : ∀ before (pending : Option (List Char)), Continued before (pending.getD []) →
          (pending = none → isSkipped (natural.dropWhile isGap) = false) →
          (∀ first ∈ (before ++ [natural]).head?, ¬ SkippedLine first) →
            LogicalLines (before ++ natural :: rest) (logicalLines pending (natural :: rest)) := by
        intro before pending hcontinued hopen hkept
        by_cases hescapes : Escapes (natural.dropWhile isGap)
        · obtain ⟨content, heq, hend⟩ := hescapes.exists_eq
          rw [heq] at hcontent
          rw [logicalLines_goes_on hcontent hend hopen, List.append_cons]
          exact hbegun _ _ (hcontinued.concat hcontent hend) (by simp) hkept
        · rw [logicalLines_ends hcontent hescapes hopen]
          exact .line hcontinued hcontent hescapes hkept hfresh
      constructor
      · cases hskips : isSkipped (natural.dropWhile isGap) with
        | true =>
            have hdropped : logicalLines none (natural :: rest) = logicalLines none rest := by
              simp [logicalLines, hskips]
            rw [hdropped]
            exact .skipped ((skippedLine_iff hfeed).mpr hskips) hfresh
        | false =>
            refine hnext [] none .nil (fun _ => hskips) ?_
            simpa [skippedLine_iff hfeed] using hskips
      · intro before text hcontinued hne hkept
        obtain ⟨first, more, rfl⟩ := List.exists_cons_of_ne_nil hne
        refine hnext _ (some text) hcontinued (fun hnone => ?_) hkept
        exact absurd hnone (Option.some_ne_none text)

theorem logicalLines_iff {naturals lines : List (List Char)}
    (hfeeds : ∀ natural ∈ naturals, '\n' ∉ natural) :
    LogicalLines naturals lines ↔ lines = logicalLines none naturals := by
  constructor
  · intro hlines
    have hkeeps : ∀ {first : List Char}, '\n' ∉ first → ¬ SkippedLine first →
        isSkipped (first.dropWhile isGap) = false := by
      intro first hfeed hkept
      rwa [skippedLine_iff hfeed, Bool.not_eq_true] at hkept
    induction hlines with
    | nil => rfl
    | @skipped natural naturals lines hskipped _ ih =>
        obtain ⟨hfeed, hfeeds⟩ := List.forall_mem_cons.mp hfeeds
        have hskips := (skippedLine_iff hfeed).mp hskipped
        rw [ih hfeeds]
        simp [logicalLines, hskips]
    | line hcontinued hcontent hends hkept _ ih =>
        rw [List.append_cons] at hfeeds
        obtain ⟨hbefore, hfeeds⟩ := List.forall_mem_append.mp hfeeds
        rw [ih hfeeds, logicalLines_line hcontinued hcontent hends]
        · rfl
        · intro _ first hfirst
          exact hkeeps (hbefore first (List.mem_of_mem_head? hfirst)) (hkept first hfirst)
    | unfinished hcontinued hne hkept =>
        rw [logicalLines_unfinished hcontinued]
        · rfl
        · refine fun _ => ⟨hne, fun first hfirst => ?_⟩
          exact hkeeps (hfeeds first (List.mem_of_mem_head? hfirst)) (hkept first hfirst)
  · rintro rfl
    exact (logicalLines_sound hfeeds).1

theorem lines_iff {text : List Char} {lines : List (List Char)} :
    Lines text lines ↔ lines = logicalLines none (naturalLines text) := by
  constructor
  · rintro ⟨naturals, hnaturals, hlines⟩
    rw [← naturalLines_iff.mp hnaturals]
    exact (logicalLines_iff hnaturals.not_mem).mp hlines
  · intro hlines
    have hnaturals : NaturalLines text (naturalLines text) := naturalLines_iff.mpr rfl
    exact ⟨_, hnaturals, (logicalLines_iff hnaturals.not_mem).mpr hlines⟩

theorem Continued.not_escapes {before : List (List Char)} {text : List Char}
    (hcontinued : Continued before text) : ¬ Escapes text := by
  induction hcontinued with
  | nil => exact not_escapes_nil
  | cons _ hescapes _ ih => rwa [escapes_append hescapes]

/-- A logical line never ends with an escape that is still open. -/
theorem Lines.not_escapes {text : List Char} {lines : List (List Char)}
    (hlines : Lines text lines) : ∀ line ∈ lines, ¬ Escapes line := by
  obtain ⟨naturals, -, hlogical⟩ := hlines
  induction hlogical with
  | nil => simp
  | skipped _ _ ih => exact ih
  | line hcontinued _ hends _ _ ih =>
      exact List.forall_mem_cons.mpr ⟨mt (escapes_append hcontinued.not_escapes).mp hends, ih⟩
  | unfinished hcontinued => simpa using hcontinued.not_escapes

end MemberDiscovery.PropertyText
