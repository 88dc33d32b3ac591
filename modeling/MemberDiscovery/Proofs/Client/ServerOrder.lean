import Mathlib.Data.List.Basic
import MemberDiscovery.Client.Settings

/-! # The order of the servers

Servers are listed by zone, and one server may stand in several lists and several times in one. The
lists are gone through one after the other, and every server is asked at the place where it occurs
first. Main statement: among all lists of servers, the one that is used is told by having each
configured server once and in the order of these places (`ClientSettings.orderedUrls_iff`).
-/

namespace MemberDiscovery.ClientSettings

/-! ## First occurrences -/

variable {sofar urls : List String} {url : String}

theorem mem_firstOccurrences_iff :
    url ∈ firstOccurrences sofar urls ↔ url ∈ urls ∧ url ∉ sofar := by
  induction urls generalizing sofar with
  | nil => simp [firstOccurrences]
  | cons first rest ih =>
      rw [firstOccurrences]
      split
      next hseen =>
        rw [List.contains_iff_mem] at hseen
        rw [ih, List.mem_cons]
        constructor
        · exact fun ⟨hrest, hnew⟩ => ⟨.inr hrest, hnew⟩
        · rintro ⟨rfl | hrest, hnew⟩
          · exact absurd hseen hnew
          · exact ⟨hrest, hnew⟩
      next hfirst =>
        rw [List.contains_iff_mem] at hfirst
        rw [List.mem_cons, ih, List.mem_cons, List.mem_cons, not_or]
        by_cases heq : url = first
        · subst heq
          simp [hfirst]
        · simp [heq]

theorem nodup_firstOccurrences (sofar urls : List String) :
    (firstOccurrences sofar urls).Nodup := by
  induction urls generalizing sofar with
  | nil => exact List.nodup_nil
  | cons first rest ih =>
      rw [firstOccurrences]
      split
      next => exact ih sofar
      next =>
        refine List.nodup_cons.mpr ⟨?_, ih (first :: sofar)⟩
        intro hmem
        exact (mem_firstOccurrences_iff.mp hmem).2 List.mem_cons_self

/-- What was seen before is not among the first occurrences, so they move by one place. -/
theorem idxOf_of_mem_firstOccurrences {first : String} (hfirst : first ∈ sofar)
    (hmem : url ∈ firstOccurrences sofar urls) :
    (first :: urls).idxOf url = urls.idxOf url + 1 := by
  apply List.idxOf_cons_ne
  rintro rfl
  exact (mem_firstOccurrences_iff.mp hmem).2 hfirst

/-- First occurrences keep the order in which they occur. -/
theorem pairwise_firstOccurrences (sofar urls : List String) :
    (firstOccurrences sofar urls).Pairwise fun a b => urls.idxOf a < urls.idxOf b := by
  induction urls generalizing sofar with
  | nil => exact .nil
  | cons first rest ih =>
      have hrest : ∀ sofar : List String, first ∈ sofar → (firstOccurrences sofar rest).Pairwise
          fun a b => (first :: rest).idxOf a < (first :: rest).idxOf b := by
        intro sofar hfirst
        apply (ih sofar).imp_of_mem
        intro a b ha hb hless
        rw [idxOf_of_mem_firstOccurrences hfirst ha, idxOf_of_mem_firstOccurrences hfirst hb]
        exact Nat.succ_lt_succ hless
      rw [firstOccurrences]
      split
      next hseen => exact hrest sofar (List.contains_iff_mem.mp hseen)
      next =>
        refine .cons ?_ (hrest (first :: sofar) List.mem_cons_self)
        intro url hmem
        rw [List.idxOf_cons_self, idxOf_of_mem_firstOccurrences List.mem_cons_self hmem]
        exact Nat.succ_pos _

/-- A list without repetitions is known by its elements and by their places in another list. -/
theorem eq_of_pairwise_idxOf {left right listed : List String} (hleft : left.Nodup)
    (hright : right.Nodup) (hmem : ∀ url, url ∈ left ↔ url ∈ right)
    (hleftOrder : left.Pairwise fun a b => listed.idxOf a < listed.idxOf b)
    (hrightOrder : right.Pairwise fun a b => listed.idxOf a < listed.idxOf b) : left = right := by
  apply List.Perm.eq_of_pairwise ?_ hleftOrder hrightOrder
  · exact (List.perm_ext_iff_of_nodup hleft hright).mpr hmem
  · intro a b _ _ hless hgreater
    exact absurd hgreater (Nat.lt_asymm hless)

/-! ## The lists of the zones -/

variable {settings : ClientSettings}

/-- The list of the client's own zone, if it has one and prefers it. -/
def preferredUrls (settings : ClientSettings) : List String :=
  match settings.prefersZone, settings.zone with
  | true, some zone => settings.urlsOf zone
  | _, _ => []

/-- The lists of the preferred zone, of the default zone, and of all zones in ascending order, one
after the other. -/
inductive Listed (settings : ClientSettings) : List String → Prop where
  | intro {zones : List String} (hascending : zones.Pairwise (· < ·))
      (hzones : ∀ zone, zone ∈ zones ↔ settings.serviceUrls.contains zone = true) :
      Listed settings
        (settings.preferredUrls ++ settings.urlsOf defaultZone ++ zones.flatMap settings.urlsOf)

theorem listed_zoneOrder (settings : ClientSettings) :
    settings.Listed (settings.zoneOrder.flatMap settings.urlsOf) := by
  have hpreferred : (if settings.prefersZone then settings.zone.toList else []).flatMap
      settings.urlsOf = settings.preferredUrls := by
    unfold preferredUrls
    cases settings.prefersZone <;> cases settings.zone <;> simp
  rw [zoneOrder, List.flatMap_append, List.flatMap_cons, ← List.append_assoc, hpreferred]
  exact .intro settings.serviceUrls.keys_ascending fun zone => Table.mem_keys_iff

theorem mem_urlsOf_iff {zone : String} :
    url ∈ settings.urlsOf zone ↔
      ∃ urls, settings.serviceUrls.get? zone = some urls ∧ url ∈ urls := by
  rw [urlsOf]
  cases settings.serviceUrls.get? zone <;> simp

/-- Zones that are listed early are listed again with all others, so none adds another server. -/
theorem Listed.mem_iff {listed : List String} (hlisted : settings.Listed listed) :
    url ∈ listed ↔ ∃ zone urls, settings.serviceUrls.get? zone = some urls ∧ url ∈ urls := by
  obtain ⟨-, hzones⟩ := hlisted
  have hzone : ∀ {zone}, url ∈ settings.urlsOf zone →
      ∃ zone urls, settings.serviceUrls.get? zone = some urls ∧ url ∈ urls :=
    fun hmem => ⟨_, mem_urlsOf_iff.mp hmem⟩
  rw [List.mem_append, List.mem_append, List.mem_flatMap]
  constructor
  · rintro ((hpreferred | hdefault) | ⟨zone, -, hmem⟩)
    · unfold preferredUrls at hpreferred
      split at hpreferred
      next => exact hzone hpreferred
      next => exact absurd hpreferred List.not_mem_nil
    · exact hzone hdefault
    · exact hzone hmem
  · rintro ⟨zone, urls, hurls, hmem⟩
    refine .inr ⟨zone, ?_, mem_urlsOf_iff.mpr ⟨urls, hurls, hmem⟩⟩
    rw [hzones, Table.contains, hurls]
    rfl

/-- The servers are asked in the only order in which every configured server occurs once, sooner the
sooner it is listed. -/
theorem orderedUrls_iff (settings : ClientSettings) :
    ∃ listed, settings.Listed listed ∧
      ∀ order : List String, order = settings.orderedUrls ↔
        order.Nodup ∧
        (∀ url, url ∈ order ↔
          ∃ zone urls, settings.serviceUrls.get? zone = some urls ∧ url ∈ urls) ∧
        order.Pairwise fun a b => listed.idxOf a < listed.idxOf b := by
  have hlisted := settings.listed_zoneOrder
  have hnodup : settings.orderedUrls.Nodup := nodup_firstOccurrences _ _
  have hmem : ∀ url, url ∈ settings.orderedUrls ↔
      ∃ zone urls, settings.serviceUrls.get? zone = some urls ∧ url ∈ urls := by
    intro url
    rw [orderedUrls, mem_firstOccurrences_iff, hlisted.mem_iff]
    exact and_iff_left List.not_mem_nil
  have horder := pairwise_firstOccurrences [] (settings.zoneOrder.flatMap settings.urlsOf)
  refine ⟨_, hlisted, fun order => ⟨?_, ?_⟩⟩
  · rintro rfl
    exact ⟨hnodup, hmem, horder⟩
  · rintro ⟨hother, hotherMem, hotherOrder⟩
    apply eq_of_pairwise_idxOf hother hnodup ?_ hotherOrder horder
    intro url
    rw [hotherMem, hmem]

/-- Zone b is the client's own; with the preference its servers come before those of the default
zone. -/
example :
    let settings := ((ClientSettings.default.addUrls "b" ["one", "two"]).addUrls
      defaultZone ["three", "one"])
    { settings with zone := some "b" }.orderedUrls = ["one", "two", "three"] ∧
      { settings with zone := some "b", prefersZone := false }.orderedUrls =
        ["three", "one", "two"] := by
  decide

end MemberDiscovery.ClientSettings
