import Mathlib.Data.List.TakeWhile
import MemberDiscovery.Proofs.Net.Paths
import MemberDiscovery.Registry.Remote

/-! # Paths of requests

A request about an instance has the application and the id in its path, just as they are. Main
statement: the path names them exactly if both are plain segments, behind a service address with no
query and no fragment (`RemoteRegistry.names_instance_iff`). Otherwise they are read as something
else, and the requests for two instances can have one path.
-/

namespace MemberDiscovery

namespace Url

/-! ## A text behind an address -/

theorem dropWhile_append_cons {p : Char → Bool} {c : Char} (hc : p c = false)
    (front back : List Char) :
    (front ++ c :: back).dropWhile p = front.dropWhile p ++ c :: back := by
  have hback : (c :: back).dropWhile p = c :: back := by
    rw [List.dropWhile_cons, hc]
    rfl
  rw [List.dropWhile_append]
  split
  next hempty => rw [List.isEmpty_iff.mp hempty, hback, List.nil_append]
  next => rfl

theorem takeWhile_append_cons {p : Char → Bool} {c : Char} (hc : p c = false)
    (front back : List Char) : (front ++ c :: back).takeWhile p = front.takeWhile p := by
  have hback : (c :: back).takeWhile p = [] := by
    rw [List.takeWhile_cons, hc]
    rfl
  rw [List.takeWhile_append]
  split
  next hlength =>
    rw [hback, List.append_nil]
    exact ((List.takeWhile_prefix p).eq_of_length hlength).symm
  next => rfl

theorem dropTrailing_append_cons {p : Char → Bool} {c : Char} (hc : p c = false)
    (front back : List Char) :
    Text.dropTrailing p (front ++ c :: back) = front ++ c :: Text.dropTrailing p back := by
  rw [Text.dropTrailing, List.reverse_append, List.reverse_cons, List.append_assoc,
    List.singleton_append, dropWhile_append_cons hc, List.reverse_append, List.reverse_cons,
    List.reverse_reverse, List.append_assoc]
  rfl

/-- Characters that are dropped at the ends of an address. -/
def isOuter (c : Char) : Bool :=
  c.toNat ≤ 0x20

/-- Characters that are not dropped everywhere in an address. -/
def isKept (c : Char) : Bool :=
  c ≠ '\t' && c ≠ '\n' && c ≠ '\r'

/-- What is read of a text that stands behind an address. -/
def readBehind (text : List Char) : List Char :=
  (Text.dropTrailing isOuter text).filter isKept

theorem toList_append_slash (front back : String) :
    (front ++ "/" ++ back).toList = front.toList ++ '/' :: back.toList := by
  rw [String.toList_append, String.toList_append, List.append_assoc]
  rfl

theorem clean_append_slash (front back : String) :
    clean (front ++ "/" ++ back) =
      (front.toList.dropWhile isOuter).filter isKept ++ '/' :: readBehind back.toList := by
  change (Text.dropTrailing isOuter ((front ++ "/" ++ back).toList.dropWhile isOuter)).filter
    isKept = _
  rw [toList_append_slash, dropWhile_append_cons rfl, dropTrailing_append_cons rfl,
    List.filter_append, List.filter_cons_of_pos rfl, readBehind]

/-- Whether an address is one of HTTP. -/
def HasScheme (chars : List Char) : Prop :=
  (chars.take 5).map Char.toLower = ['h', 't', 't', 'p', ':']

/-- The address from its authority on. -/
def afterScheme (chars : List Char) : List Char :=
  (chars.drop 5).dropWhile isSlash

/-- The host and the port that an authority names. -/
def endpoint? (authority : List Char) : Option (String × Nat) := do
  let host ← canonicalHost? (splitPort false (afterUser authority)).1
  let port ← port? (splitPort false (afterUser authority)).2
  return (host, port)

/-- What of an address is its path, from what stands behind its authority. -/
def pathPart (rest : List Char) : List Char :=
  (rest.takeWhile (· ≠ '#')).takeWhile (· ≠ '?')

/-- The address at an endpoint with something behind its authority. -/
def located (rest : List Char) (endpoint : String × Nat) : Url where
  host := endpoint.1
  port := endpoint.2
  path := canonicalPath (pathPart rest)
  query := (afterMark '?' (rest.takeWhile (· ≠ '#'))).map (escape reservedInQuery)
  fragment := (afterMark '#' rest).map (escape reservedInFragment)

theorem hasScheme_of_parse? {text : String} {url : Url} (hparse : parse? text = some url) :
    HasScheme (clean text) := by
  unfold parse? at hparse
  dsimp only at hparse
  split at hparse
  · cases hparse
  next hscheme => exact not_not.mp hscheme

theorem parse?_of_hasScheme {text : String} (hscheme : HasScheme (clean text)) :
    parse? text =
      (endpoint? ((afterScheme (clean text)).takeWhile (!endsAuthority ·))).map
        (located ((afterScheme (clean text)).dropWhile (!endsAuthority ·))) := by
  unfold HasScheme at hscheme
  unfold parse? endpoint? afterScheme
  dsimp only
  rw [if_neg (not_not.mpr hscheme)]
  cases canonicalHost? (splitPort false _).1 with
  | none => rfl
  | some host =>
      cases port? (splitPort false _).2 with
      | none => rfl
      | some port => rfl

theorem five_le_length_of_hasScheme {front : List Char} (hscheme : HasScheme (front ++ ['/'])) :
    5 ≤ front.length := by
  by_contra hshort
  rw [HasScheme, List.take_of_length_le (by simp; omega), List.map_append] at hscheme
  have hlast := congrArg List.getLast? hscheme
  rw [List.map_singleton, List.getLast?_concat] at hlast
  exact absurd hlast (by decide)

/-- An address with a slash at its end can be continued: more of it is read behind the authority. -/
theorem exists_parse_append {address : String} {base : Url}
    (hbase : parse? (address ++ "/") = some base) :
    ∃ rest : List Char, (∀ c ∈ rest.head?, endsAuthority c = true) ∧ ∀ text : String,
      parse? (address ++ "/" ++ text) =
        some (located (rest ++ '/' :: readBehind text.toList) (base.host, base.port)) := by
  rw [← String.append_empty (s := address ++ "/")] at hbase
  generalize hfront : (address.toList.dropWhile isOuter).filter isKept = front
  have hclean : ∀ text : String, clean (address ++ "/" ++ text) =
      front ++ '/' :: readBehind text.toList := by
    intro text
    rw [clean_append_slash, hfront]
  have hscheme := hasScheme_of_parse? hbase
  rw [hclean] at hscheme
  have hfive := five_le_length_of_hasScheme hscheme
  have hparse : ∀ text : String, parse? (address ++ "/" ++ text) =
      (endpoint? (((front.drop 5 ++ '/' :: readBehind text.toList).dropWhile isSlash).takeWhile
        (!endsAuthority ·))).map
        (located (((front.drop 5 ++ '/' :: readBehind text.toList).dropWhile isSlash).dropWhile
          (!endsAuthority ·))) := by
    intro text
    have htext : HasScheme (clean (address ++ "/" ++ text)) := by
      rw [HasScheme, List.take_append_of_le_length hfive] at hscheme
      rw [hclean, HasScheme, List.take_append_of_le_length hfive]
      exact hscheme
    rw [parse?_of_hasScheme htext, hclean, afterScheme, List.drop_append_of_le_length hfive]
  rw [hparse] at hbase
  cases hhost : (front.drop 5).dropWhile isSlash with
  | nil =>
      -- Behind the scheme there are only slashes, and no host.
      rw [List.dropWhile_append, hhost] at hbase
      change (endpoint? []).map _ = some base at hbase
      cases hbase
  | cons c others =>
      have hslash : ∀ back : List Char, (front.drop 5 ++ '/' :: back).dropWhile isSlash =
          (c :: others) ++ '/' :: back := by
        intro back
        rw [List.dropWhile_append, hhost]
        rfl
      have hends : (!endsAuthority '/') = false := rfl
      rw [hslash, takeWhile_append_cons hends, dropWhile_append_cons hends,
        Option.map_eq_some_iff] at hbase
      obtain ⟨endpoint, hendpoint, rfl⟩ := hbase
      refine ⟨(c :: others).dropWhile (!endsAuthority ·), ?_, ?_⟩
      · intro d hd
        have hhead := List.head?_dropWhile_not (!endsAuthority ·) (c :: others)
        rw [Option.mem_def.mp hd] at hhead
        simpa using hhead
      · intro text
        rw [hparse, hslash, takeWhile_append_cons hends, dropWhile_append_cons hends, hendpoint]
        rfl

/-! ## What is read of the text -/

theorem afterMark_eq_none_iff {mark : Char} {chars : List Char} :
    afterMark mark chars = none ↔ mark ∉ chars := by
  have hnil : chars.dropWhile (· ≠ mark) = [] ↔ mark ∉ chars := by
    rw [List.dropWhile_eq_nil_iff]
    simp only [ne_eq, decide_not, Bool.not_eq_eq_eq_not, Bool.not_true, decide_eq_false_iff_not]
    exact ⟨fun hall hmem => hall mark hmem rfl, fun hmark c hc heq => hmark (heq ▸ hc)⟩
  rw [afterMark]
  split
  next hdrop => exact iff_of_true rfl (hnil.mp hdrop)
  next c rest hdrop =>
    refine iff_of_false (Option.some_ne_none rest) fun hmark => ?_
    rw [hnil.mpr hmark] at hdrop
    cases hdrop

theorem takeWhile_append_of_mem {mark : Char} {front : List Char} (hmark : mark ∈ front)
    (back : List Char) :
    (front ++ back).takeWhile (· ≠ mark) = front.takeWhile (· ≠ mark) := by
  obtain ⟨left, right, rfl⟩ := List.append_of_mem hmark
  have hstop : decide (mark ≠ mark) = false := by simp
  rw [List.append_assoc, List.cons_append, takeWhile_append_cons hstop, takeWhile_append_cons hstop]

theorem takeWhile_append_of_notMem {mark : Char} {front : List Char} (hmark : mark ∉ front)
    (back : List Char) :
    (front ++ back).takeWhile (· ≠ mark) = front ++ back.takeWhile (· ≠ mark) := by
  refine List.takeWhile_append_of_pos fun c hc => ?_
  rw [decide_eq_true_eq]
  rintro rfl
  exact hmark hc

theorem takeWhile_of_notMem {mark : Char} {chars : List Char} (hmark : mark ∉ chars) :
    chars.takeWhile (· ≠ mark) = chars := by
  have htake := takeWhile_append_of_notMem hmark []
  rwa [List.append_nil, List.takeWhile_nil, List.append_nil] at htake

theorem pathPart_append_of_marked {front : List Char} (hmarked : '?' ∈ front ∨ '#' ∈ front)
    (back : List Char) : pathPart (front ++ back) = pathPart front := by
  by_cases hfragment : '#' ∈ front
  · rw [pathPart, takeWhile_append_of_mem hfragment, pathPart]
  · have hquery := hmarked.resolve_right hfragment
    rw [pathPart, takeWhile_append_of_notMem hfragment, takeWhile_append_of_mem hquery, pathPart,
      takeWhile_of_notMem hfragment]

theorem pathPart_append_of_unmarked {front : List Char} (hquery : '?' ∉ front)
    (hfragment : '#' ∉ front) (back : List Char) :
    pathPart (front ++ back) = front ++ pathPart back := by
  rw [pathPart, takeWhile_append_of_notMem hfragment, takeWhile_append_of_notMem hquery, pathPart]

theorem located_marks_iff {rest : List Char} {endpoint : String × Nat} :
    (located rest endpoint).query = none ∧ (located rest endpoint).fragment = none ↔
      '?' ∉ rest ∧ '#' ∉ rest := by
  rw [located, Option.map_eq_none_iff, Option.map_eq_none_iff, afterMark_eq_none_iff,
    afterMark_eq_none_iff]
  constructor
  · rintro ⟨hquery, hfragment⟩
    rw [takeWhile_of_notMem hfragment] at hquery
    exact ⟨hquery, hfragment⟩
  · rintro ⟨hquery, hfragment⟩
    rw [takeWhile_of_notMem hfragment]
    exact ⟨hquery, hfragment⟩

theorem dropTrailing_sublist (p : Char → Bool) (chars : List Char) :
    (Text.dropTrailing p chars).Sublist chars := by
  have hdrop := (List.dropWhile_sublist (l := chars.reverse) p).reverse
  rwa [List.reverse_reverse] at hdrop

theorem dropTrailing_eq_self_iff {p : Char → Bool} {chars : List Char} :
    Text.dropTrailing p chars = chars ↔ ∀ c ∈ chars.getLast?, p c = false := by
  rw [Text.dropTrailing, List.reverse_eq_iff, ← List.head?_reverse]
  cases chars.reverse with
  | nil => simp
  | cons c rest =>
      rw [List.dropWhile_cons, List.head?_cons]
      split
      next hc =>
        have hshort := (List.dropWhile_sublist (l := rest) p).length_le
        refine iff_of_false (fun heq => ?_) (by simp [hc])
        have hlength := congrArg List.length heq
        rw [List.length_cons] at hlength
        omega
      next hc => simpa using hc

theorem pathPart_sublist (rest : List Char) : (pathPart rest).Sublist rest :=
  (List.takeWhile_sublist _).trans (List.takeWhile_sublist _)

/-- No character of a text is dropped or ends the path. -/
def Unmarked (chars : List Char) : Prop :=
  ∀ c ∈ chars, c ∉ ['?', '#', '\t', '\n', '\r']

/-- What is read of a text behind an address is the text if nothing is in it that is dropped. -/
theorem pathPart_readBehind_eq_iff {text : List Char} :
    pathPart (readBehind text) = text ↔
      Unmarked text ∧ ∀ c ∈ text.getLast?, isOuter c = false := by
  have hpath := pathPart_sublist (readBehind text)
  have hkept : (readBehind text).Sublist (Text.dropTrailing isOuter text) := List.filter_sublist
  have htrailing := dropTrailing_sublist isOuter text
  have hmark : ∀ c, c ∉ ['?', '#', '\t', '\n', '\r'] ↔
      isKept c = true ∧ decide (c ≠ '#') = true ∧ decide (c ≠ '?') = true := by
    intro c
    simp [isKept]
    tauto
  simp only [Unmarked, hmark]
  rw [← dropTrailing_eq_self_iff]
  constructor
  · intro heq
    rw [heq] at hpath
    -- Nothing is lost, so every stage has left the text as it is.
    have hsame := htrailing.antisymm (hpath.trans hkept)
    have hread := (hkept.trans htrailing).antisymm hpath
    refine ⟨fun c hc => ⟨?_, ?_, ?_⟩, hsame⟩
    · rw [← hread] at hc
      exact (List.mem_filter.mp hc).2
    · rw [hread, pathPart] at heq
      rw [← heq] at hc
      have hmem := List.mem_takeWhile_imp ((List.takeWhile_sublist _).subset hc)
      exact hmem
    · rw [hread, pathPart] at heq
      rw [← heq] at hc
      have hmem := List.mem_takeWhile_imp hc
      exact hmem
  · rintro ⟨hall, hsame⟩
    rw [readBehind, hsame, List.filter_eq_self.mpr fun c hc => (hall c hc).1, pathPart,
      List.takeWhile_eq_self_iff.mpr fun c hc => (hall c hc).2.1,
      List.takeWhile_eq_self_iff.mpr fun c hc => (hall c hc).2.2]

/-! ## The path of a longer address -/

theorem canonicalPath_cons {c : Char} (hc : isSlash c = true) (rest : List Char) :
    canonicalPath (c :: rest) = joined (resolve [] (Text.splitWhere isSlash rest)) := by
  change joined (resolve [] (Text.splitWhere isSlash (if isSlash c then rest else c :: rest))) = _
  rw [if_pos hc]

/-- What is put behind a slash is resolved from the segments before the slash. -/
theorem exists_canonicalPath_append {rest : List Char}
    (hrest : ∀ c ∈ rest.head?, isSlash c = true) :
    ∃ above : List (List Char), (∀ segment ∈ above, '/' ∉ segment) ∧ ∀ back : List Char,
      canonicalPath (rest ++ '/' :: back) =
        joined (resolve above (Text.splitWhere isSlash back)) := by
  cases rest with
  | nil => exact ⟨[], by simp, fun back => canonicalPath_cons rfl back⟩
  | cons c others =>
      refine ⟨(Text.splitWhere isSlash others).foldl enter [], ?_, ?_⟩
      · intro segment hsegment hslash
        rcases mem_foldl_enter hsegment with hmem | hmem
        · cases hmem
        · exact absurd (Text.not_of_mem_splitWhere hmem hslash) (by decide)
      · intro back
        rw [List.cons_append, canonicalPath_cons (hrest c rfl), Text.splitWhere_append_cons rfl,
          resolve_append [] _ (Text.splitWhere_ne_nil _ _)]

theorem not_names_self (base app id : String) : ¬ Names base base app id := by
  rintro ⟨first, second, -, -, hpath, -⟩
  have hlength := congrArg String.length hpath
  simp only [String.length_append] at hlength
  have happs : "apps/".length = 5 := rfl
  omega

/-- A path names one application and one instance at most. -/
theorem Names.unique {base path app id other otherId : String} (hnames : Names base path app id)
    (hother : Names base path other otherId) : app = other ∧ id = otherId := by
  obtain ⟨first, second, -, hsecond, hpath, hfirst, hid⟩ := hnames
  obtain ⟨left, right, -, hright, hsame, hleft, hotherId⟩ := hother
  have hchars := congrArg String.toList (hpath.symm.trans hsame)
  rw [toList_append_slash, toList_append_slash] at hchars
  obtain ⟨hfront, hback⟩ := Text.eq_of_append_cons_eq hsecond hright hchars
  simp only [String.toList_append, List.append_right_inj] at hfront
  rw [hfront] at hfirst
  rw [hback] at hid
  have happ := hfirst.symm.trans hleft
  have hids := hid.symm.trans hotherId
  simp only [Option.some.injEq, String.toList_inj] at happ hids
  exact ⟨happ, hids⟩

/-- Two texts that the end of a path can have as segments, just as they are. -/
structure PlainNames (app id : String) : Prop where
  segment : IsSegment app.toList
  unmarked : Unmarked app.toList
  lastSegment : IsSegment id.toList
  lastUnmarked : Unmarked id.toList
  /-- No blank and no control character stands at the end. -/
  ending : ∀ c ∈ id.toList.getLast?, 0x20 < c.toNat

theorem unmarked_append_iff (front back : List Char) :
    Unmarked (front ++ back) ↔ Unmarked front ∧ Unmarked back :=
  List.forall_mem_append

theorem unmarked_instancePath_iff {app id : List Char} :
    Unmarked (instancePath app id) ↔ Unmarked app ∧ Unmarked id := by
  have hslash : Unmarked ['/'] := by simp [Unmarked]
  have happs : Unmarked appsSegment := by simp [Unmarked, appsSegment]
  have hcons : ∀ back, Unmarked ('/' :: back) ↔ Unmarked back := fun back =>
    (unmarked_append_iff ['/'] back).trans (and_iff_right hslash)
  rw [instancePath, unmarked_append_iff, hcons, unmarked_append_iff, hcons, and_iff_right happs]

theorem getLast?_instancePath (app id : List Char) :
    (instancePath app id).getLast? = some (id.getLast?.getD '/') := by
  have hsplit : instancePath app id = (appsSegment ++ '/' :: app) ++ '/' :: id := by
    rw [instancePath, List.append_assoc, List.cons_append]
  rw [hsplit, List.getLast?_append_cons, List.getLast?_cons]

theorem pathPart_readBehind_instancePath_iff {app id : List Char} :
    pathPart (readBehind (instancePath app id)) = instancePath app id ↔
      (Unmarked app ∧ Unmarked id) ∧ ∀ c ∈ id.getLast?, 0x20 < c.toNat := by
  have houter : ∀ c, isOuter c = false ↔ 0x20 < c.toNat := by
    intro c
    rw [isOuter, decide_eq_false_iff_not, Nat.not_le]
  rw [pathPart_readBehind_eq_iff, unmarked_instancePath_iff, getLast?_instancePath]
  simp only [houter]
  cases id.getLast? with
  | none => simp
  | some c => rfl

theorem isSlash_of_endsAuthority {c : Char} (hends : endsAuthority c = true) (hquery : c ≠ '?')
    (hfragment : c ≠ '#') : isSlash c = true := by
  rw [endsAuthority, decide_eq_false hquery, decide_eq_false hfragment, Bool.or_false,
    Bool.or_false] at hends
  exact hends

theorem names_located_iff {rest : List Char} (hrest : ∀ c ∈ rest.head?, endsAuthority c = true)
    (endpoint : String × Nat) (app id : String) :
    Names (located (rest ++ ['/']) endpoint).path
        (located (rest ++ '/' :: readBehind (instancePath app.toList id.toList)) endpoint).path
        app id ↔
      (located (rest ++ ['/']) endpoint).query = none ∧
        (located (rest ++ ['/']) endpoint).fragment = none ∧ PlainNames app id := by
  have hmarks : (located (rest ++ ['/']) endpoint).query = none ∧
      (located (rest ++ ['/']) endpoint).fragment = none ↔ '?' ∉ rest ∧ '#' ∉ rest := by
    rw [located_marks_iff]
    simp
  rw [← and_assoc, hmarks]
  by_cases hmarked : '?' ∈ rest ∨ '#' ∈ rest
  · -- The text is not read as a part of the path.
    rw [located, located, pathPart_append_of_marked hmarked, pathPart_append_of_marked hmarked]
    refine iff_of_false (not_names_self _ _ _) ?_
    rintro ⟨⟨hquery, hfragment⟩, -⟩
    exact hmarked.elim hquery hfragment
  · obtain ⟨hquery, hfragment⟩ := not_or.mp hmarked
    have hslash : ∀ c ∈ rest.head?, isSlash c = true := by
      intro c hc
      have hmem := List.mem_of_mem_head? hc
      exact isSlash_of_endsAuthority (hrest c hc) (ne_of_mem_of_not_mem hmem hquery)
        (ne_of_mem_of_not_mem hmem hfragment)
    have hpart : ∀ back : List Char, pathPart (rest ++ '/' :: back) =
        rest ++ '/' :: pathPart back := by
      intro back
      have hone : pathPart (['/'] ++ back) = ['/'] ++ pathPart back :=
        pathPart_append_of_unmarked (by decide) (by decide) back
      rw [pathPart_append_of_unmarked hquery hfragment]
      exact congrArg (rest ++ ·) hone
    obtain ⟨above, habove, hcanonical⟩ := exists_canonicalPath_append hslash
    have hbase : (located (rest ++ ['/']) endpoint).path = joined (above.reverse ++ [[]]) := by
      change canonicalPath (pathPart (rest ++ ['/'])) = _
      rw [hpart, hcanonical]
      exact congrArg joined (resolve_of_no_dots above (by decide))
    have hkept := (pathPart_sublist (readBehind (instancePath app.toList id.toList))).trans
      (List.filter_sublist.trans (dropTrailing_sublist isOuter _))
    rw [hbase]
    change Names _ (canonicalPath (pathPart (rest ++ '/' :: _))) app id ↔ _
    rw [hpart, hcanonical, names_resolve_iff habove hkept, pathPart_readBehind_instancePath_iff]
    constructor
    · rintro ⟨⟨⟨hunmarked, hlast⟩, hending⟩, happ, hid⟩
      exact ⟨⟨hquery, hfragment⟩, happ, hunmarked, hid, hlast, hending⟩
    · rintro ⟨-, hplain⟩
      exact ⟨⟨⟨hplain.unmarked, hplain.lastUnmarked⟩, hplain.ending⟩, hplain.segment,
        hplain.lastSegment⟩

end Url

namespace RemoteRegistry

theorem toList_path_cancel (app id : String) :
    (path (.cancel app id)).toList = Url.instancePath app.toList id.toList := by
  rw [path, Url.toList_append_slash, String.toList_append, Url.instancePath, List.append_assoc]
  rfl

/-- The path of a request about an instance names its application and its id if and only if both
are plain and the address of the service has no query and no fragment. Different instances that are
named in this way have different paths. -/
theorem names_instance_iff (server : RemoteRegistry) {base : Url}
    (hbase : Url.parse? (server.serviceUrl ++ "/") = some base) (app id : String) :
    ∃ url, server.url? (.cancel app id) = some url ∧
      (∀ record : Instance, record.app = app → record.id = id →
        (server.url? (.heartbeat record)).map Url.path = some url.path) ∧
      (Url.Names base.path url.path app id ↔
        base.query = none ∧ base.fragment = none ∧ Url.PlainNames app id) ∧
      (Url.Names base.path url.path app id → ∀ other otherId otherUrl,
        server.url? (.cancel other otherId) = some otherUrl → Url.PlainNames other otherId →
        (otherUrl.path = url.path ↔ other = app ∧ otherId = id)) := by
  obtain ⟨rest, hrest, hparse⟩ := Url.exists_parse_append hbase
  have hself : base = Url.located (rest ++ ['/']) (base.host, base.port) := by
    have hempty := hparse ""
    rw [String.append_empty, hbase, Option.some.injEq] at hempty
    exact hempty
  have hcancel : ∀ app id, server.url? (.cancel app id) = some (Url.located
      (rest ++ '/' :: Url.readBehind (Url.instancePath app.toList id.toList))
      (base.host, base.port)) := by
    intro app id
    rw [url?, hparse, toList_path_cancel]
    rfl
  have hnames : ∀ {app id url}, server.url? (.cancel app id) = some url →
      (Url.Names base.path url.path app id ↔
        base.query = none ∧ base.fragment = none ∧ Url.PlainNames app id) := by
    intro app id url hurl
    rw [hcancel, Option.some.injEq] at hurl
    rw [← hurl, hself]
    exact Url.names_located_iff hrest _ app id
  refine ⟨_, hcancel app id, ?_, hnames (hcancel app id), ?_⟩
  · rintro record rfl rfl
    have hpath : path (.heartbeat record) = path (.cancel record.app record.id) := rfl
    rw [url?, hpath, hparse, toList_path_cancel]
    rfl
  · intro hthis other otherId otherUrl hother hplain
    constructor
    · intro hpath
      obtain ⟨hquery, hfragment, -⟩ := (hnames (hcancel app id)).mp hthis
      have hthat := (hnames hother).mpr ⟨hquery, hfragment, hplain⟩
      rw [hpath] at hthat
      exact hthat.unique hthis
    · rintro ⟨rfl, rfl⟩
      rw [hcancel, Option.some.injEq] at hother
      rw [hother]

def sampleServer : RemoteRegistry :=
  ⟨"http://localhost:8080/eureka/v2", none⟩

/-- Two instances that differ in where a slash stands have one path, which names neither. -/
theorem slashed_names_share_path :
    ∃ url, sampleServer.url? (.cancel "a/b" "c") = some url ∧
      sampleServer.url? (.cancel "a" "b/c") = some url ∧ url.path = "/eureka/v2/apps/a/b/c" ∧
      ¬ Url.Names "/eureka/v2/" url.path "a/b" "c" ∧
      ¬ Url.Names "/eureka/v2/" url.path "a" "b/c" := by
  have hbase : Url.parse? (sampleServer.serviceUrl ++ "/") =
      some ⟨"localhost", 8080, "/eureka/v2/", none, none⟩ := by decide +kernel
  obtain ⟨url, hurl, -, hnames, -⟩ := names_instance_iff sampleServer hbase "a/b" "c"
  have hsame : sampleServer.url? (.cancel "a" "b/c") = sampleServer.url? (.cancel "a/b" "c") := by
    decide +kernel
  have hpath : (sampleServer.url? (.cancel "a/b" "c")).map Url.path =
      some "/eureka/v2/apps/a/b/c" := by
    decide +kernel
  rw [hurl, Option.map_some, Option.some.injEq] at hpath
  obtain ⟨other, hother, -, hnamesOther, -⟩ := names_instance_iff sampleServer hbase "a" "b/c"
  obtain rfl : url = other := Option.some.inj (hurl.symm.trans (hsame.symm.trans hother))
  refine ⟨url, hurl, hother, hpath, ?_, ?_⟩
  · intro hnamed
    obtain ⟨-, -, hplain⟩ := hnames.mp hnamed
    exact absurd (hplain.segment.not_slash '/' (by decide)) (by decide)
  · intro hnamed
    obtain ⟨-, -, hplain⟩ := hnamesOther.mp hnamed
    exact absurd (hplain.lastSegment.not_slash '/' (by decide)) (by decide)

end RemoteRegistry

end MemberDiscovery
