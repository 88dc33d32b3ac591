import MemberDiscovery.Proofs.Registry.OrderedMap

/-! # Records under their own names

A registry stores and renews a record under its application as it is spelled, and looks it up and
removes it under the application in upper case. Where the two are the same, a record that is stored
can be found, renewed and removed under its own name. Any other record is renewed, but it is not
found, and it stays when it is removed (`Registry.serves_own_name_iff`).
-/

namespace MemberDiscovery

namespace RegistryStep

/-- A step that stores a record. -/
inductive Stores (record : Instance) : RegistryStep → Prop where
  | put : Stores record (.put record)
  | register (now : Timestamp) : Stores record (.submit now (.register record))

/-- A step that removes a record under its own name. -/
inductive Removes (record : Instance) : RegistryStep → Prop where
  | cancel (now : Timestamp) : Removes record (.submit now (.cancel record.app record.id))
  | evict : Removes record (.evict record.app record.id)

end RegistryStep

namespace Registry

variable {registry : Registry} {record : Instance}

/-! ## What is asked for -/

/-- The lookup of its application gives a record with its id. -/
def Lists (registry : Registry) (now : Timestamp) (record : Instance) : Prop :=
  ∃ app, (registry.submit now (.lookup record.app)).1 = .ok (some app) ∧ record.id ∈ app.ids

/-- Its application and its id give a record with this id. -/
def Shows (registry : Registry) (record : Instance) : Prop :=
  ∃ found, registry.instance? record.app record.id = some found ∧ found.id = record.id

theorem copies_ne_nil_iff (registry : Registry) (app id : String) :
    registry.copies app id ≠ [] ↔ id ∈ (registry.members app).map Instance.id := by
  simp [copies, List.filter_eq_nil_iff]

theorem lists_iff (hfailures : registry.failures = []) (now : Timestamp) (record : Instance) :
    registry.Lists now record ↔ registry.copies (Text.upper record.app) record.id ≠ [] := by
  obtain ⟨hmembers, hnone⟩ := accept_lookup now record.app registry
  rw [copies_ne_nil_iff, Lists, submit_of_failures_eq_nil now _ hfailures, ← hmembers]
  cases (registry.accept now (.lookup record.app)).1 with
  | none => simp
  | some app => simp [Application.ids]

theorem shows_iff (registry : Registry) (record : Instance) :
    registry.Shows record ↔ registry.copies (Text.upper record.app) record.id ≠ [] := by
  rw [Shows, instance?_eq]
  cases hcopies : registry.copies (Text.upper record.app) record.id with
  | nil => simp
  | cons found rest =>
      have hfound : found ∈ registry.copies (Text.upper record.app) record.id := by simp [hcopies]
      simpa using (List.mem_filter.mp hfound).2

theorem heartbeat_eq (hfailures : registry.failures = []) (now : Timestamp) (record : Instance) :
    (registry.submit now (.heartbeat record)).1 =
      .ok (if registry.knows record then .renewed else .notFound) := by
  rw [submit_of_failures_eq_nil now _ hfailures]
  rfl

theorem renewed_iff (hfailures : registry.failures = []) (now : Timestamp) (record : Instance) :
    (registry.submit now (.heartbeat record)).1 = .ok .renewed ↔
      registry.copies record.app record.id ≠ [] := by
  rw [heartbeat_eq hfailures, ← knows_iff]
  cases registry.knows record <;> simp

theorem notFound_iff (hfailures : registry.failures = []) (now : Timestamp) (record : Instance) :
    (registry.submit now (.heartbeat record)).1 = .ok .notFound ↔
      registry.copies record.app record.id = [] := by
  have hknows := knows_iff registry record
  rw [heartbeat_eq hfailures]
  cases hknown : registry.knows record <;> simpa [hknown] using hknows

/-! ## What is done -/

theorem failures_after_stores (hfailures : registry.failures = []) {storing : RegistryStep}
    (hstoring : storing.Stores record) : (storing.after registry).failures = [] := by
  cases hstoring with
  | put => exact hfailures
  | register now =>
      rw [RegistryStep.after, submit_of_failures_eq_nil now _ hfailures]
      rfl

theorem failures_after_removes (hfailures : registry.failures = []) {removing : RegistryStep}
    (hremoving : removing.Removes record) : (removing.after registry).failures = [] := by
  cases hremoving with
  | cancel now =>
      rw [RegistryStep.after, submit_of_failures_eq_nil now _ hfailures]
      rfl
  | evict => exact (evict_failures registry _ _).trans hfailures

/-- A record is stored under its application as it is spelled. -/
theorem copies_after_stores (hfailures : registry.failures = []) {storing : RegistryStep}
    (hstoring : storing.Stores record) (app : String) :
    (storing.after registry).copies app record.id ≠ [] ↔
      app = record.app ∨ registry.copies app record.id ≠ [] := by
  have hstore : ∀ other : Instance, other.app = record.app → other.id = record.id →
      ((registry.store other).copies app record.id ≠ [] ↔
        app = record.app ∨ registry.copies app record.id ≠ []) := by
    intro other happ hid
    rw [copies_store, happ, hid]
    by_cases hspelled : app = record.app <;> simp [hspelled]
  cases hstoring with
  | put => exact hstore record rfl rfl
  | register now =>
      rw [RegistryStep.after, submit_of_failures_eq_nil now _ hfailures,
        copies_congr (accept_register now record registry)]
      exact hstore (stored now record) rfl rfl

/-- A record is removed under its application in upper case. -/
theorem copies_after_removes (hkept : registry.WellKept) (hfailures : registry.failures = [])
    {removing : RegistryStep} (hremoving : removing.Removes record) (app : String) :
    (removing.after registry).copies app record.id ≠ [] ↔
      app ≠ Text.upper record.app ∧ registry.copies app record.id ≠ [] := by
  have hevict : (registry.evict record.app record.id).2.copies app record.id ≠ [] ↔
      app ≠ Text.upper record.app ∧ registry.copies app record.id ≠ [] := by
    by_cases hupper : app = Text.upper record.app
    · rw [copies, hupper, hkept.members_evict_eq_filter]
      simp
    · rw [copies_evict, if_neg fun h => hupper h.1]
      simp [hupper]
  cases hremoving with
  | evict => exact hevict
  | cancel now =>
      rw [RegistryStep.after, submit_of_failures_eq_nil now _ hfailures,
        copies_congr (accept_cancel_applications now record.app record.id registry)]
      exact hevict

/-! ## Storing and removing -/

/-- A record that was stored is always renewed, but it is found only if its application is in upper
case or another record had its id there. Once it was removed, it is not found, but it is renewed
unless its application is in upper case. -/
theorem serves_own_name_iff (steps : List RegistryStep) (hfailures : (run steps).failures = [])
    (record : Instance) {storing removing : RegistryStep} (hstoring : storing.Stores record)
    (hremoving : removing.Removes record) (now : Timestamp) :
    let stored := storing.after (run steps)
    let removed := removing.after stored
    let found := Text.upper record.app = record.app ∨
      record.id ∈ ((run steps).members (Text.upper record.app)).map Instance.id
    ((stored.submit now (.heartbeat record)).1 = .ok .renewed ∧
      (stored.Lists now record ↔ found) ∧ (stored.Shows record ↔ found)) ∧
    ¬ removed.Lists now record ∧ ¬ removed.Shows record ∧
    ((removed.submit now (.heartbeat record)).1 = .ok .notFound ↔
      Text.upper record.app = record.app) := by
  intro stored removed found
  have hstoredFailures : stored.failures = [] := failures_after_stores hfailures hstoring
  have hremovedFailures : removed.failures = [] :=
    failures_after_removes hstoredFailures hremoving
  have hstored : ∀ app, stored.copies app record.id ≠ [] ↔
      app = record.app ∨ (run steps).copies app record.id ≠ [] :=
    copies_after_stores hfailures hstoring
  have hremoved : ∀ app, removed.copies app record.id ≠ [] ↔
      app ≠ Text.upper record.app ∧ stored.copies app record.id ≠ [] :=
    copies_after_removes ((WellKept.run steps).after storing) hstoredFailures hremoving
  refine ⟨⟨?renewed, ?listed, ?shown⟩, ?notListed, ?notShown, ?notFound⟩
  case renewed => exact (renewed_iff hstoredFailures now record).mpr ((hstored _).mpr (.inl rfl))
  case listed => rw [lists_iff hstoredFailures, hstored, copies_ne_nil_iff]
  case shown => rw [shows_iff, hstored, copies_ne_nil_iff]
  case notListed => simp [lists_iff hremovedFailures, hremoved]
  case notShown => simp [shows_iff, hremoved]
  case notFound =>
    have hspelled : stored.copies record.app record.id ≠ [] := (hstored _).mpr (.inl rfl)
    rw [notFound_iff hremovedFailures, ← Decidable.not_iff_not, ← ne_eq (removed.copies _ _),
      hremoved]
    simp [hspelled, eq_comm]

/-- A record of the application `app` is renewed, but not found, and is renewed after its
cancellation. -/
theorem lower_case_record_not_served :
    let record : Instance := { Instance.new "app" "member" 0 with app := "app" }
    let stored := (RegistryStep.submit 0 (.register record)).after (run [])
    let removed := (RegistryStep.submit 0 (.cancel record.app record.id)).after stored
    (stored.submit 0 (.heartbeat record)).1 = .ok .renewed ∧ ¬ stored.Lists 0 record ∧
      ¬ stored.Shows record ∧ (removed.submit 0 (.heartbeat record)).1 ≠ .ok .notFound := by
  intro record stored removed
  have hlower : Text.upper record.app ≠ record.app := by decide +kernel
  obtain ⟨⟨hrenewed, hlists, hshows⟩, -, -, hnotFound⟩ :=
    serves_own_name_iff [] rfl record (.register 0) (.cancel 0) 0
  refine ⟨hrenewed, ?_, ?_, ?_⟩
  · rw [hlists]
    exact fun hfound => hfound.elim hlower (by simp [run, members, empty])
  · rw [hshows]
    exact fun hfound => hfound.elim hlower (by simp [run, members, empty])
  · rw [ne_eq, hnotFound]
    exact hlower

end Registry

end MemberDiscovery
