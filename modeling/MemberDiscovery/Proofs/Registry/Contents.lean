import MemberDiscovery.Registry.Memory

/-! # What a registry holds

`Registry.members` lists the records under an application as it is spelled, and `Registry.copies`
those of them with a given id. Every operation of a registry is described by what it does to these
two views. A request that is taken is described by `Registry.accept`: all scheduled failures are
used up by then.
-/

namespace MemberDiscovery

namespace Application

/-- Adding a record puts it in the place of the first one with its id. -/
theorem filter_addTo_id (record : Instance) (records : List Instance) :
    (addTo record records).filter (·.id = record.id) =
      record :: (records.filter (·.id = record.id)).tail := by
  induction records with
  | nil => simp [addTo]
  | cons first rest ih =>
      by_cases hid : first.id = record.id
      · simp [addTo, hid]
      · simp [addTo, hid, ih]

/-- Adding a record leaves the records with other ids as they are and in their order. -/
theorem filter_addTo {p : String → Bool} {record : Instance} (hrecord : p record.id = false)
    (records : List Instance) :
    (addTo record records).filter (fun other => p other.id) =
      records.filter fun other => p other.id := by
  induction records with
  | nil => simp [addTo, hrecord]
  | cons first rest ih =>
      by_cases hfirst : first.id = record.id
      · simp [addTo, hfirst, hrecord]
      · simp [addTo, hfirst, List.filter_cons, ih]

theorem filter_addTo_of_ne (record : Instance) (records : List Instance) {id : String}
    (hid : id ≠ record.id) :
    (addTo record records).filter (·.id = id) = records.filter (·.id = id) := by
  exact filter_addTo (p := fun other => decide (other = id)) (decide_eq_false hid.symm) records

/-- A record that was not known comes last. -/
theorem addTo_eq_append {record : Instance} {records : List Instance}
    (hnew : ∀ other ∈ records, other.id ≠ record.id) :
    addTo record records = records ++ [record] := by
  induction records with
  | nil => rfl
  | cons first rest ih =>
      rw [addTo, if_neg (hnew first List.mem_cons_self),
        ih fun other hother => hnew other (List.mem_cons_of_mem _ hother)]
      rfl

/-- A record that was known stays where it was. -/
theorem addTo_append_cons {record old : Instance} {before after : List Instance}
    (hold : old.id = record.id) (hbefore : ∀ other ∈ before, other.id ≠ record.id) :
    addTo record (before ++ old :: after) = before ++ record :: after := by
  induction before with
  | nil => simp [addTo, hold]
  | cons first rest ih =>
      rw [List.cons_append, addTo, if_neg (hbefore first List.mem_cons_self),
        ih fun other hother => hbefore other (List.mem_cons_of_mem _ hother)]
      rfl

/-- A record that was known is removed from where it was. -/
theorem eraseP_append_cons {old : Instance} {before after : List Instance}
    (hbefore : ∀ other ∈ before, other.id ≠ old.id) :
    (before ++ old :: after).eraseP (·.id = old.id) = before ++ after := by
  rw [List.eraseP_append_right _ (by simpa using hbefore)]
  simp

theorem filter_eraseP_id (records : List Instance) (id : String) :
    (records.eraseP (·.id = id)).filter (·.id = id) = (records.filter (·.id = id)).tail := by
  induction records with
  | nil => rfl
  | cons first rest ih =>
      by_cases hfirst : first.id = id
      · simp [hfirst]
      · simp [hfirst, ih]

/-- Removing a record leaves the records with other ids as they are and in their order. -/
theorem filter_eraseP {p : String → Bool} {id : String} (hid : p id = false)
    (records : List Instance) :
    (records.eraseP (·.id = id)).filter (fun other => p other.id) =
      records.filter fun other => p other.id := by
  induction records with
  | nil => rfl
  | cons first rest ih =>
      by_cases hfirst : first.id = id
      · simp [hfirst, hid]
      · simp [hfirst, List.filter_cons, ih]

theorem filter_eraseP_of_ne (records : List Instance) {removed id : String} (hid : id ≠ removed) :
    (records.eraseP (·.id = removed)).filter (·.id = id) = records.filter (·.id = id) := by
  exact filter_eraseP (p := fun other => decide (other = id)) (decide_eq_false hid.symm) records

end Application

namespace Registry

/-- The records under an application as it is spelled, in registry order. -/
def members (registry : Registry) (app : String) : List Instance :=
  ((registry.applications.get? app).map (·.instances)).getD []

/-- The records under an application, as it is spelled, and an id. -/
def copies (registry : Registry) (app id : String) : List Instance :=
  (registry.members app).filter (·.id = id)

/-- What a registry holds is a matter of its applications. -/
theorem members_congr {left right : Registry} (h : left.applications = right.applications) :
    left.members = right.members := by
  funext app
  rw [members, members, h]

theorem copies_congr {left right : Registry} (h : left.applications = right.applications) :
    left.copies = right.copies := by
  funext app id
  rw [copies, copies, members_congr h]

theorem members_store (registry : Registry) (record : Instance) (app : String) :
    (registry.store record).members app =
      if app = record.app then Application.addTo record (registry.members app)
      else registry.members app := by
  by_cases happ : app = record.app
  · subst happ
    cases hfound : registry.applications.get? record.app <;>
      simp [members, store, hfound, Application.add, Application.new]
  · simp [members, store, happ]

theorem copies_store (registry : Registry) (record : Instance) (app id : String) :
    (registry.store record).copies app id =
      if app = record.app ∧ id = record.id then record :: (registry.copies app id).tail
      else registry.copies app id := by
  rw [copies, members_store]
  by_cases happ : app = record.app
  · by_cases hid : id = record.id
    · rw [if_pos happ, if_pos ⟨happ, hid⟩, hid, Application.filter_addTo_id]
      rfl
    · rw [if_pos happ, if_neg fun h => hid h.2, Application.filter_addTo_of_ne _ _ hid]
      rfl
  · rw [if_neg happ, if_neg fun h => happ h.1]
    rfl

theorem members_keep (registry : Registry) (key : String) (found : Application) (app : String) :
    (registry.keep key found).members app =
      if app = key then found.instances else registry.members app := by
  unfold keep
  split
  next hempty =>
    have hnil : found.instances = [] := List.isEmpty_iff.mp hempty
    by_cases happ : app = key <;> simp [members, happ, hnil]
  next =>
    by_cases happ : app = key <;> simp [members, happ]

theorem evict_of_none {registry : Registry} {app : String} (id : String)
    (hnone : registry.applications.get? (Text.upper app) = none) :
    registry.evict app id = (none, registry) := by
  simp only [evict, hnone]

theorem evict_of_some {registry : Registry} {app : String} (id : String) {found : Application}
    (hsome : registry.applications.get? (Text.upper app) = some found) :
    registry.evict app id =
      ((found.remove id).1, registry.keep (Text.upper app) (found.remove id).2) := by
  simp only [evict, hsome]

/-- Evicting removes the first record with the id from the application in upper case. -/
theorem members_evict (registry : Registry) (evicted id app : String) :
    (registry.evict evicted id).2.members app =
      if app = Text.upper evicted then (registry.members app).eraseP (·.id = id)
      else registry.members app := by
  cases hfound : registry.applications.get? (Text.upper evicted) with
  | none =>
      rw [evict_of_none id hfound]
      split
      next happ => simp [members, happ, hfound]
      next => rfl
  | some found =>
      rw [evict_of_some id hfound, members_keep]
      split
      next happ => simp [members, happ, hfound, Application.remove]
      next => rfl

theorem copies_evict (registry : Registry) (evicted removed app id : String) :
    (registry.evict evicted removed).2.copies app id =
      if app = Text.upper evicted ∧ id = removed then (registry.copies app id).tail
      else registry.copies app id := by
  rw [copies, members_evict]
  by_cases happ : app = Text.upper evicted
  · by_cases hid : id = removed
    · rw [if_pos happ, if_pos ⟨happ, hid⟩, hid, Application.filter_eraseP_id]
      rfl
    · rw [if_pos happ, if_neg fun h => hid h.2, Application.filter_eraseP_of_ne _ hid]
      rfl
  · rw [if_neg happ, if_neg fun h => happ h.1]
    rfl

theorem keep_operations (registry : Registry) (key : String) (found : Application) :
    (registry.keep key found).operations = registry.operations := by
  unfold keep
  split <;> rfl

theorem keep_failures (registry : Registry) (key : String) (found : Application) :
    (registry.keep key found).failures = registry.failures := by
  unfold keep
  split <;> rfl

theorem evict_operations (registry : Registry) (app id : String) :
    (registry.evict app id).2.operations = registry.operations := by
  cases hfound : registry.applications.get? (Text.upper app) with
  | none => rw [evict_of_none id hfound]
  | some found => rw [evict_of_some id hfound, keep_operations]

theorem evict_failures (registry : Registry) (app id : String) :
    (registry.evict app id).2.failures = registry.failures := by
  cases hfound : registry.applications.get? (Text.upper app) with
  | none => rw [evict_of_none id hfound]
  | some found => rw [evict_of_some id hfound, keep_failures]

/-- A heartbeat finds the record if there is a copy of it. -/
theorem knows_iff (registry : Registry) (record : Instance) :
    registry.knows record = true ↔ registry.copies record.app record.id ≠ [] := by
  unfold knows copies members Application.find?
  cases registry.applications.get? record.app with
  | none => simp
  | some found => simp [List.find?_isSome, List.filter_eq_nil_iff]

/-- One record is looked up under the application in upper case. -/
theorem instance?_eq (registry : Registry) (app id : String) :
    registry.instance? app id = (registry.copies (Text.upper app) id).head? := by
  unfold instance? application? copies members Application.find?
  cases registry.applications.get? (Text.upper app) with
  | none => rfl
  | some found => simp [List.head?_filter]

/-- The answer to a request that is taken and the registry after it, which has no scheduled failures
left. -/
def accept {α : Type} (now : Timestamp) (request : Request α) (registry : Registry) :
    α × Registry :=
  ((registry.perform now request).1,
    { (registry.perform now request).2 with
      operations := registry.operations ++ [request.operation], failures := [] })

theorem perform_operations {α : Type} (now : Timestamp) (request : Request α)
    (registry : Registry) : (registry.perform now request).2.operations = registry.operations := by
  cases request with
  | register record => rfl
  | cancel app id => exact evict_operations registry app id
  | heartbeat record => rfl
  | lookup app => rfl

theorem perform_failures {α : Type} (now : Timestamp) (request : Request α)
    (registry : Registry) : (registry.perform now request).2.failures = registry.failures := by
  cases request with
  | register record => rfl
  | cancel app id => exact evict_failures registry app id
  | heartbeat record => rfl
  | lookup app => rfl

theorem submit_of_failures_eq_nil {α : Type} (now : Timestamp) (request : Request α)
    {registry : Registry} (hfailures : registry.failures = []) :
    registry.submit now request =
      (.ok (registry.accept now request).1, (registry.accept now request).2) := by
  have hafter := perform_failures now request registry
  rw [hfailures] at hafter
  simp only [submit, hfailures, accept, perform_operations]
  rw [← hafter]

theorem submit_of_failures_eq_cons {α : Type} (now : Timestamp) (request : Request α)
    {registry : Registry} {error : ClientError} {rest : List ClientError}
    (hfailures : registry.failures = error :: rest) :
    registry.submit now request = (.error error, { registry with failures := rest }) := by
  simp only [submit, hfailures]

theorem evict_setFailures (registry : Registry) (failures : List ClientError) (app id : String) :
    (({ registry with failures } : Registry).evict app id).2 =
      { (registry.evict app id).2 with failures } := by
  cases hfound : registry.applications.get? (Text.upper app) with
  | none => rw [evict_of_none id hfound, evict_of_none id (by exact hfound)]
  | some found =>
      rw [evict_of_some id hfound, evict_of_some id (by exact hfound)]
      unfold keep
      dsimp only
      split <;> rfl

/-- The effect of a request that is taken does not depend on the failures before it. -/
@[simp] theorem accept_setFailures {α : Type} (now : Timestamp) (request : Request α)
    (registry : Registry) (failures : List ClientError) :
    ({ registry with failures } : Registry).accept now request = registry.accept now request := by
  cases request with
  | register record => rfl
  | cancel app id =>
      simp only [accept, perform, evict_setFailures]
  | heartbeat record => rfl
  | lookup app => rfl

@[simp] theorem accept_failures {α : Type} (now : Timestamp) (request : Request α)
    (registry : Registry) : (registry.accept now request).2.failures = [] := rfl

@[simp] theorem accept_operations {α : Type} (now : Timestamp) (request : Request α)
    (registry : Registry) :
    (registry.accept now request).2.operations = registry.operations ++ [request.operation] := rfl

/-- What is stored of a record: it is not dirty, and the time of its arrival is noted. -/
def stored (now : Timestamp) (record : Instance) : Instance :=
  { record with dirty := false, lastUpdated := now }

theorem accept_register (now : Timestamp) (record : Instance) (registry : Registry) :
    (registry.accept now (.register record)).2.applications =
      (registry.store (stored now record)).applications := rfl

theorem accept_heartbeat_applications (now : Timestamp) (record : Instance) (registry : Registry) :
    (registry.accept now (.heartbeat record)).2.applications = registry.applications := rfl

theorem accept_cancel_applications (now : Timestamp) (app id : String) (registry : Registry) :
    (registry.accept now (.cancel app id)).2.applications =
      (registry.evict app id).2.applications := rfl

theorem accept_lookup_applications (now : Timestamp) (app : String) (registry : Registry) :
    (registry.accept now (.lookup app)).2.applications = registry.applications := rfl

/-- A lookup finds the records under the application in upper case, if there are any. -/
theorem accept_lookup (now : Timestamp) (app : String) (registry : Registry) :
    ((registry.accept now (.lookup app)).1.map (·.instances)).getD [] =
        registry.members (Text.upper app) ∧
      ((registry.accept now (.lookup app)).1 = none ↔ registry.members (Text.upper app) = []) := by
  simp only [accept, perform, application?, members]
  cases registry.applications.get? (Text.upper app) with
  | none => simp
  | some found => cases hinstances : found.instances <;> simp [Option.filter, hinstances]

/-- No record is held twice. -/
def Distinct (registry : Registry) : Prop :=
  ∀ app id, (registry.copies app id).length ≤ 1

theorem distinct_empty : empty.Distinct := fun _ _ => Nat.zero_le 1

variable {registry : Registry}

theorem Distinct.congr (hdistinct : registry.Distinct) {after : Registry}
    (happlications : after.applications = registry.applications) : after.Distinct := by
  intro app id
  rw [copies_congr happlications]
  exact hdistinct app id

theorem Distinct.store (hdistinct : registry.Distinct) (record : Instance) :
    (registry.store record).Distinct := by
  intro app id
  rw [copies_store]
  split
  next =>
    have hbefore := hdistinct app id
    simp only [List.length_cons, List.length_tail]
    omega
  next => exact hdistinct app id

theorem Distinct.evict (hdistinct : registry.Distinct) (app id : String) :
    (registry.evict app id).2.Distinct := by
  intro other otherId
  rw [copies_evict]
  split
  next =>
    have hbefore := hdistinct other otherId
    rw [List.length_tail]
    omega
  next => exact hdistinct other otherId

theorem Distinct.submit (hdistinct : registry.Distinct) {α : Type} (now : Timestamp)
    (request : Request α) : (registry.submit now request).2.Distinct := by
  unfold Registry.submit
  split
  next => exact hdistinct.congr rfl
  next =>
    cases request with
    | register record => exact (hdistinct.store (stored now record)).congr rfl
    | cancel app id => exact (hdistinct.evict app id).congr rfl
    | heartbeat record => exact hdistinct.congr rfl
    | lookup app => exact hdistinct.congr rfl

end Registry

end MemberDiscovery
