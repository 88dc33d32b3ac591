import Mathlib.Algebra.Order.BigOperators.Group.List
import Mathlib.Algebra.Order.Ring.Nat
import Mathlib.Data.List.Flatten
import MemberDiscovery.Proofs.Net.Escapes

/-! # Segments of a path

A text that is put behind a path is read like the path: its slashes part it, its dot segments climb
and its escapes stand for other octets. Every one of these only takes something away. So as much
as was put there is left only if none of them took place (`nothing_lost`).
-/

namespace MemberDiscovery.Url

/-! ## Resolving dot segments -/

def isDot (segment : List Char) : Bool :=
  isSingleDot segment || isDoubleDot segment

/-- The segments above, in reverse, after one more segment that is not the last one. -/
def enter (above : List (List Char)) (segment : List Char) : List (List Char) :=
  if isDoubleDot segment then leave above
  else if isSingleDot segment then above
  else segment :: above

theorem resolve_cons (above : List (List Char)) (segment : List Char)
    {rest : List (List Char)} (hrest : rest ≠ []) :
    resolve above (segment :: rest) = resolve (enter above segment) rest := by
  cases rest with
  | nil => exact absurd rfl hrest
  | cons next rest =>
      rw [resolve, enter]
      · split
        · rfl
        · split <;> rfl
      · exact fun h => by cases h

theorem resolve_append (above : List (List Char)) (segments : List (List Char))
    {rest : List (List Char)} (hrest : rest ≠ []) :
    resolve above (segments ++ rest) = resolve (segments.foldl enter above) rest := by
  induction segments generalizing above with
  | nil => rfl
  | cons segment segments ih =>
      rw [List.cons_append, resolve_cons above segment (List.append_ne_nil_of_right_ne_nil _ hrest),
        ih, List.foldl_cons]

theorem resolve_singleton (above : List (List Char)) (last : List Char) :
    resolve above [last] =
      (if isDot last then [] :: enter above last else last :: above).reverse := by
  rw [resolve, isDot, enter]
  cases isSingleDot last <;> cases isDoubleDot last <;> rfl

theorem enter_of_not_isDot (above : List (List Char)) {segment : List Char}
    (hsegment : isDot segment = false) : enter above segment = segment :: above := by
  rw [isDot, Bool.or_eq_false_iff] at hsegment
  rw [enter, hsegment.1, hsegment.2]
  rfl

theorem resolve_of_no_dots (above : List (List Char)) {segments : List (List Char)}
    (hsegments : ∀ segment ∈ segments, isDot segment = false) :
    resolve above segments = above.reverse ++ segments := by
  induction segments generalizing above with
  | nil => exact (List.append_nil _).symm
  | cons segment rest ih =>
      have hdot := hsegments segment List.mem_cons_self
      cases rest with
      | nil =>
          rw [resolve_singleton, hdot, if_neg Bool.false_ne_true, List.reverse_cons]
      | cons next rest =>
          rw [resolve_cons above segment (List.cons_ne_nil _ _), enter_of_not_isDot above hdot,
            ih _ fun other hother => hsegments other (List.mem_cons_of_mem _ hother),
            List.reverse_cons, List.append_assoc, List.singleton_append]

theorem leave_subset (above : List (List Char)) : leave above ⊆ above := by
  cases above with
  | nil => exact List.Subset.refl _
  | cons segment above =>
      rw [leave]
      split
      · exact List.Subset.refl _
      · exact List.subset_cons_self _ _

theorem mem_enter {above : List (List Char)} {first segment : List Char}
    (hsegment : segment ∈ enter above first) : segment ∈ above ∨ segment = first := by
  unfold enter at hsegment
  split at hsegment
  · exact .inl (leave_subset above hsegment)
  · split at hsegment
    · exact .inl hsegment
    · exact (List.mem_cons.mp hsegment).symm

theorem mem_foldl_enter {above segments : List (List Char)} {segment : List Char}
    (hsegment : segment ∈ segments.foldl enter above) : segment ∈ above ∨ segment ∈ segments := by
  induction segments generalizing above with
  | nil => exact .inl hsegment
  | cons first rest ih =>
      rcases ih hsegment with hmem | hmem
      · exact (mem_enter hmem).imp_right fun heq => List.mem_cons.mpr (.inl heq)
      · exact .inr (List.mem_cons_of_mem _ hmem)

/-- Resolving makes no segments but empty ones. -/
theorem mem_resolve {above segments : List (List Char)} {segment : List Char}
    (hsegment : segment ∈ resolve above segments) :
    segment ∈ above ∨ segment ∈ segments ∨ segment = [] := by
  rcases List.eq_nil_or_concat' segments with rfl | ⟨before, last, rfl⟩
  · exact .inl (List.mem_reverse.mp hsegment)
  · have hbefore : ∀ {other}, other ∈ before.foldl enter above →
        other ∈ above ∨ other ∈ before ++ [last] ∨ other = [] := fun hmem =>
      (mem_foldl_enter hmem).imp_right fun hmem => .inl (List.mem_append_left _ hmem)
    have hlast : last ∈ before ++ [last] := List.mem_append_right _ (List.mem_singleton_self _)
    rw [resolve_append above before (List.cons_ne_nil _ _), resolve_singleton, List.mem_reverse]
      at hsegment
    split at hsegment
    next =>
      rcases List.mem_cons.mp hsegment with rfl | hmem
      · exact .inr (.inr rfl)
      · rcases mem_enter hmem with hmem | rfl
        · exact hbefore hmem
        · exact .inr (.inl hlast)
    next =>
      rcases List.mem_cons.mp hsegment with rfl | hmem
      · exact .inr (.inl hlast)
      · exact hbefore hmem

/-! ## What is lost -/

/-- How much a segment stands for, together with the slash before it. -/
def weight (segment : List Char) : Nat :=
  (unescapeOctets segment).length + 1

def total (segments : List (List Char)) : Nat :=
  (segments.map weight).sum

theorem total_nil : total [] = 0 :=
  rfl

theorem total_cons (segment : List Char) (rest : List (List Char)) :
    total (segment :: rest) = weight segment + total rest :=
  List.sum_cons

theorem total_append (front back : List (List Char)) :
    total (front ++ back) = total front + total back := by
  rw [total, List.map_append, List.sum_append, total, total]

theorem total_reverse (segments : List (List Char)) : total segments.reverse = total segments := by
  rw [total, List.map_reverse, List.sum_reverse, total]

theorem total_leave_le (above : List (List Char)) : total (leave above) ≤ total above := by
  cases above with
  | nil => exact Nat.le_refl _
  | cons segment above =>
      rw [leave]
      split
      · exact Nat.le_refl _
      · rw [total_cons]
        omega

theorem two_le_weight_of_isDot {segment : List Char} (hdot : isDot segment = true) :
    2 ≤ weight segment := by
  have hne : segment ≠ [] := by
    rintro rfl
    exact absurd hdot (by decide)
  have hpos := List.length_pos_of_ne_nil (unescapeOctets_ne_nil hne)
  rw [weight]
  omega

/-- A dot segment is lost, and maybe another one with it. -/
theorem total_enter_le (above : List (List Char)) (segment : List Char) :
    total (enter above segment) + (if isDot segment then 2 else 0) ≤
      total above + weight segment := by
  cases hdot : isDot segment with
  | true =>
      have hweight := two_le_weight_of_isDot hdot
      have hleave := total_leave_le above
      rw [if_pos rfl]
      unfold enter
      split
      next => omega
      next hdouble =>
        rw [isDot, Bool.eq_false_of_not_eq_true hdouble, Bool.or_false] at hdot
        rw [if_pos hdot]
        omega
  | false =>
      rw [enter_of_not_isDot above hdot, total_cons, if_neg Bool.false_ne_true]
      omega

/-- Every dot segment makes what is left less. -/
theorem total_resolve_le (above segments : List (List Char)) :
    total (resolve above segments) + segments.countP isDot ≤ total above + total segments := by
  induction segments generalizing above with
  | nil => exact Nat.le_of_eq (total_reverse above)
  | cons first rest ih =>
      have henter := total_enter_le above first
      rw [List.countP_cons, total_cons]
      cases rest with
      | nil =>
          rw [resolve_singleton, total_reverse]
          split
          next hdot =>
            have hnil : weight [] = 1 := rfl
            rw [if_pos hdot] at henter
            rw [total_cons, hnil, List.countP_nil]
            omega
          next hdot =>
            rw [total_cons, List.countP_nil]
            omega
      | cons next rest =>
          have hrest := ih (enter above first)
          rw [resolve_cons above first (List.cons_ne_nil _ _)]
          split at henter
          next hdot =>
            rw [if_pos hdot]
            omega
          next hdot =>
            rw [if_neg hdot]
            omega

theorem length_octets_le {part chars : List Char} (hpart : part.Sublist chars) :
    (octets part).length ≤ (octets chars).length :=
  (hpart.flatMap _).length_le

/-- A text that loses characters stands for less. -/
theorem eq_of_sublist_of_length_octets_le {part chars : List Char} (hpart : part.Sublist chars)
    (hlength : (octets chars).length ≤ (octets part).length) : part = chars := by
  induction hpart with
  | slnil => rfl
  | cons c hpart ih =>
      have hc := one_le_length_utf8EncodeChar c
      have hle := length_octets_le hpart
      rw [octets_cons, List.length_append] at hlength
      omega
  | cons_cons c hpart ih =>
      rw [octets_cons, octets_cons, List.length_append, List.length_append] at hlength
      rw [ih (by omega)]

theorem sum_length_octets_splitWhere (chars : List Char) :
    ((Text.splitWhere isSlash chars).map fun part => (octets part).length + 1).sum =
      (octets chars).length + 1 := by
  induction chars with
  | nil => rfl
  | cons c rest ih =>
      rw [Text.splitWhere, octets_cons, List.length_append]
      split
      next hslash =>
        have hone : (String.utf8EncodeChar c).length = 1 := by
          rw [isSlash, Bool.or_eq_true, decide_eq_true_eq, decide_eq_true_eq] at hslash
          rcases hslash with rfl | rfl <;> rfl
        have hnil : (octets []).length = 0 := rfl
        rw [List.map_cons, List.sum_cons, ih, hone, hnil]
        omega
      next =>
        cases hparts : Text.splitWhere isSlash rest with
        | nil => exact absurd hparts (Text.splitWhere_ne_nil _ _)
        | cons part parts =>
            rw [hparts, List.map_cons, List.sum_cons] at ih
            rw [List.map_cons, List.sum_cons, octets_cons, List.length_append]
            omega

theorem total_splitWhere_le (chars : List Char) :
    total (Text.splitWhere isSlash chars) ≤ (octets chars).length + 1 := by
  rw [← sum_length_octets_splitWhere]
  exact List.sum_le_sum fun part _ => Nat.add_le_add_right (length_unescapeOctets_le part) 1

theorem total_splitWhere_lt {chars part : List Char} (hpart : part ∈ Text.splitWhere isSlash chars)
    (hescape : HasEscape part) :
    total (Text.splitWhere isSlash chars) < (octets chars).length + 1 := by
  rw [← sum_length_octets_splitWhere]
  refine List.sum_lt_sum _ _ ?_ ⟨part, hpart, ?_⟩
  · exact fun other _ => Nat.add_le_add_right (length_unescapeOctets_le other) 1
  · exact Nat.add_lt_add_right (length_unescapeOctets_lt hescape) 1

/-- If the path stands for as much as what was put there, then no character was dropped, no segment
climbed and no escape was undone. -/
theorem nothing_lost {above : List (List Char)} {kept chars : List Char}
    (hkept : kept.Sublist chars)
    (htotal : total above + (octets chars).length + 1 ≤
      total (resolve above (Text.splitWhere isSlash kept))) :
    kept = chars ∧ ∀ segment ∈ Text.splitWhere isSlash chars,
      isDot segment = false ∧ ¬ HasEscape segment := by
  have hresolve := total_resolve_le above (Text.splitWhere isSlash kept)
  have hsplit := total_splitWhere_le kept
  have hoctets := length_octets_le hkept
  obtain rfl := eq_of_sublist_of_length_octets_le hkept (by omega)
  refine ⟨rfl, ?_⟩
  intro segment hsegment
  constructor
  · have hnone : (Text.splitWhere isSlash kept).countP isDot = 0 := by omega
    exact Bool.eq_false_of_not_eq_true (List.countP_eq_zero.mp hnone segment hsegment)
  · intro hescape
    have hlt := total_splitWhere_lt hsegment hescape
    omega

/-! ## Paths -/

/-- A segment as it stands in a path. -/
def shown (segment : List Char) : List Char :=
  (escape reservedInPath segment).toList

def joined (segments : List (List Char)) : String :=
  String.join (segments.map fun segment => "/" ++ escape reservedInPath segment)

theorem toList_joined (segments : List (List Char)) :
    (joined segments).toList = (segments.map shown).flatMap ('/' :: ·) := by
  rw [joined, String.toList_join, List.flatMap_map, List.flatMap_map]
  refine List.flatMap_congr fun segment _ => ?_
  rw [String.toList_append]
  rfl

theorem flatMap_slash_inj {left right : List (List Char)} (hleft : ∀ part ∈ left, '/' ∉ part)
    (hright : ∀ part ∈ right, '/' ∉ part) :
    left.flatMap ('/' :: ·) = right.flatMap ('/' :: ·) ↔ left = right := by
  have hsplit : ∀ {parts : List (List Char)}, (∀ part ∈ parts, '/' ∉ part) →
      Text.splitWhere (· = '/') (parts.flatMap ('/' :: ·)) = [] :: parts := by
    intro parts hparts
    refine Text.splitWhere_append_flatMap (by decide) [] ?_
    intro part hpart d hd
    rw [decide_eq_false_iff_not]
    rintro rfl
    exact hparts part hpart hd
  constructor
  · intro heq
    have hparts := congrArg (Text.splitWhere (· = '/')) heq
    rw [hsplit hleft, hsplit hright] at hparts
    exact (List.cons.inj hparts).2
  · rintro rfl
    rfl

/-- A path is a base path with three segments behind it, `apps` and two that stand for two texts. -/
def Names (base path app id : String) : Prop :=
  ∃ first second : String, '/' ∉ first.toList ∧ '/' ∉ second.toList ∧
    path = base ++ "apps/" ++ first ++ "/" ++ second ∧
    unescape? first.toList = some app.toList ∧ unescape? second.toList = some id.toList

def appsSegment : List Char :=
  "apps".toList

theorem shown_nil : shown [] = [] :=
  rfl

theorem slash_notMem_shown {segment : List Char} (hsegment : '/' ∉ segment) :
    '/' ∉ shown segment :=
  (slash_mem_escape_iff segment).not.mpr hsegment

theorem names_joined_iff {above after : List (List Char)} {app id : String}
    (habove : ∀ segment ∈ above, '/' ∉ segment) (hafter : ∀ segment ∈ after, '/' ∉ segment) :
    Names (joined (above ++ [[]])) (joined after) app id ↔
      ∃ first second : List Char, '/' ∉ first ∧ '/' ∉ second ∧
        after.map shown = above.map shown ++ [appsSegment, first, second] ∧
        unescape? first = some app.toList ∧ unescape? second = some id.toList := by
  have hshown : ∀ {segments : List (List Char)}, (∀ segment ∈ segments, '/' ∉ segment) →
      ∀ part ∈ segments.map shown, '/' ∉ part := by
    intro segments hsegments part hpart
    obtain ⟨segment, hsegment, rfl⟩ := List.mem_map.mp hpart
    exact slash_notMem_shown (hsegments segment hsegment)
  have hpath : ∀ {first second : List Char}, '/' ∉ first → '/' ∉ second →
      (joined after = joined (above ++ [[]]) ++ "apps/" ++ String.ofList first ++ "/" ++
          String.ofList second ↔
        after.map shown = above.map shown ++ [appsSegment, first, second]) := by
    intro first second hfirst hsecond
    have hparts : ∀ part ∈ above.map shown ++ [appsSegment, first, second], '/' ∉ part := by
      intro part hpart
      rcases List.mem_append.mp hpart with hpart | hpart
      · exact hshown habove part hpart
      · simp only [List.mem_cons, List.not_mem_nil, or_false] at hpart
        rcases hpart with rfl | rfl | rfl
        · decide
        · exact hfirst
        · exact hsecond
    rw [← flatMap_slash_inj (hshown hafter) hparts, ← toList_joined, ← String.toList_inj]
    simp only [String.toList_append, String.toList_ofList, toList_joined, List.map_append,
      List.map_cons, List.map_nil, shown_nil, List.flatMap_append, List.flatMap_cons,
      List.flatMap_nil, List.append_assoc, List.append_nil]
    rfl
  constructor
  · rintro ⟨first, second, hfirst, hsecond, heq, happ, hid⟩
    refine ⟨first.toList, second.toList, hfirst, hsecond, (hpath hfirst hsecond).mp ?_, happ, hid⟩
    rw [String.ofList_toList, String.ofList_toList]
    exact heq
  · rintro ⟨first, second, hfirst, hsecond, heq, happ, hid⟩
    refine ⟨String.ofList first, String.ofList second, ?_, ?_, (hpath hfirst hsecond).mpr heq,
      ?_, ?_⟩
    · rwa [String.toList_ofList]
    · rwa [String.toList_ofList]
    · rwa [String.toList_ofList]
    · rwa [String.toList_ofList]

/-- A text that is one segment of a path and stands for itself there. -/
structure IsSegment (chars : List Char) : Prop where
  not_slash : ∀ c ∈ chars, isSlash c = false
  not_dot : isDot chars = false
  not_hasEscape : ¬ HasEscape chars

def instancePath (app id : List Char) : List Char :=
  appsSegment ++ '/' :: (app ++ '/' :: id)

theorem length_octets_instancePath (app id : List Char) :
    (octets (instancePath app id)).length = (octets app).length + (octets id).length + 6 := by
  have hslash : (String.utf8EncodeChar '/').length = 1 := rfl
  have happs : (octets appsSegment).length = 4 := by decide
  rw [instancePath, octets_append, octets_cons, octets_append, octets_cons]
  simp only [List.length_append, hslash, happs]
  omega

theorem splitWhere_instancePath (app id : List Char) :
    Text.splitWhere isSlash (instancePath app id) =
      appsSegment :: (Text.splitWhere isSlash app ++ Text.splitWhere isSlash id) := by
  rw [instancePath, Text.splitWhere_append_cons rfl, Text.splitWhere_append_cons rfl]
  rfl

theorem IsSegment.splitWhere_eq {chars : List Char} (hchars : IsSegment chars) :
    Text.splitWhere isSlash chars = [chars] :=
  Text.splitWhere_of_forall hchars.not_slash

theorem IsSegment.slash_notMem {chars : List Char} (hchars : IsSegment chars) : '/' ∉ chars :=
  fun hmem => absurd (hchars.not_slash _ hmem) (by decide)

theorem IsSegment.unescape?_shown {text : String} (htext : IsSegment text.toList) :
    unescape? (shown text.toList) = some text.toList := by
  rw [unescape?_eq_some_iff, shown, unescapeOctets_escape,
    unescapeOctets_eq_octets htext.not_hasEscape]

theorem weight_shown (segment : List Char) : weight (shown segment) = weight segment := by
  rw [weight, shown, unescapeOctets_escape, weight]

theorem total_map_shown (segments : List (List Char)) :
    total (segments.map shown) = total segments := by
  rw [total, List.map_map, total]
  exact congrArg List.sum (List.map_congr_left fun segment _ => weight_shown segment)

/-- What is put behind a path, maybe with a loss, names an application and an instance exactly if
there is no loss and both are segments. -/
theorem names_resolve_iff {above : List (List Char)} {app id : String} {kept : List Char}
    (habove : ∀ segment ∈ above, '/' ∉ segment)
    (hkept : kept.Sublist (instancePath app.toList id.toList)) :
    Names (joined (above.reverse ++ [[]]))
        (joined (resolve above (Text.splitWhere isSlash kept))) app id ↔
      kept = instancePath app.toList id.toList ∧ IsSegment app.toList ∧ IsSegment id.toList := by
  have hafter : ∀ segment ∈ resolve above (Text.splitWhere isSlash kept), '/' ∉ segment := by
    intro segment hsegment hslash
    rcases mem_resolve hsegment with hmem | hmem | rfl
    · exact habove segment hmem hslash
    · exact absurd (Text.not_of_mem_splitWhere hmem hslash) (by decide)
    · cases hslash
  rw [names_joined_iff (fun segment hmem => habove segment (List.mem_reverse.mp hmem)) hafter]
  constructor
  · rintro ⟨first, second, -, -, hshown, hfirst, hsecond⟩
    rw [unescape?_eq_some_iff] at hfirst hsecond
    -- The three segments stand for as much as was put there.
    have htotal : total above + (octets (instancePath app.toList id.toList)).length + 1 =
        total (resolve above (Text.splitWhere isSlash kept)) := by
      have happs : weight appsSegment = 5 := by decide
      rw [← total_map_shown (resolve above (Text.splitWhere isSlash kept)), hshown, total_append,
        total_map_shown, total_reverse, total_cons, total_cons, total_cons, happs, weight, weight,
        hfirst, hsecond, length_octets_instancePath, total_nil]
      omega
    obtain ⟨rfl, hsegments⟩ := nothing_lost hkept htotal.le
    refine ⟨rfl, ?_⟩
    have hcount := congrArg List.length hshown
    rw [resolve_of_no_dots above fun segment hmem => (hsegments segment hmem).1,
      splitWhere_instancePath] at hcount
    simp only [List.length_map, List.length_append, List.length_reverse, List.length_cons,
      List.length_nil, Text.length_splitWhere] at hcount
    have hnot : ∀ chars : List Char, chars.countP isSlash = 0 →
        ∀ c ∈ chars, isSlash c = false := fun chars hzero c hc =>
      Bool.eq_false_of_not_eq_true (List.countP_eq_zero.mp hzero c hc)
    have happ := hnot app.toList (by omega)
    have hid := hnot id.toList (by omega)
    rw [splitWhere_instancePath, Text.splitWhere_of_forall happ, Text.splitWhere_of_forall hid]
      at hsegments
    have hmemapp := hsegments app.toList (by simp)
    have hmemid := hsegments id.toList (by simp)
    exact ⟨⟨happ, hmemapp.1, hmemapp.2⟩, ⟨hid, hmemid.1, hmemid.2⟩⟩
  · rintro ⟨rfl, happ, hid⟩
    refine ⟨shown app.toList, shown id.toList, slash_notMem_shown happ.slash_notMem,
      slash_notMem_shown hid.slash_notMem, ?_, happ.unescape?_shown, hid.unescape?_shown⟩
    rw [splitWhere_instancePath, happ.splitWhere_eq, hid.splitWhere_eq, resolve_of_no_dots,
      List.map_append]
    · rfl
    · intro segment hsegment
      simp only [List.mem_cons, List.singleton_append, List.not_mem_nil, or_false] at hsegment
      rcases hsegment with rfl | rfl | rfl
      · decide
      · exact happ.not_dot
      · exact hid.not_dot

end MemberDiscovery.Url
