import MemberDiscovery.Proofs.Registry.Contents

/-! # A registry as an ordered map

A registry maps applications and ids to records, and keeps the records of one application in order.
Whatever is done with a registry stores one record, removes one, or leaves everything as it is
(`RegistryStep.change`). So every registry that comes about from an empty one is well kept, and a
step changes the one record that it is about: a record that is stored takes the place of the one
with its id or comes last, and all others stay as they are and in their order
(`Registry.holds_ordered_map`).
-/

namespace MemberDiscovery

namespace Application

/-- A record with a known id changes nothing about the ids, and a new id comes last. -/
theorem map_id_addTo (record : Instance) (records : List Instance) :
    (addTo record records).map Instance.id =
      if record.id ∈ records.map Instance.id then records.map Instance.id
      else records.map Instance.id ++ [record.id] := by
  induction records with
  | nil => simp [addTo]
  | cons first rest ih =>
      by_cases hfirst : first.id = record.id
      · simp [addTo, hfirst]
      · rw [addTo, if_neg hfirst, List.map_cons, ih]
        simp only [List.map_cons, List.mem_cons, Ne.symm hfirst, false_or]
        split <;> rfl

theorem mem_addTo {record other : Instance} {records : List Instance}
    (hmem : other ∈ addTo record records) : other = record ∨ other ∈ records := by
  induction records with
  | nil => simpa [addTo] using hmem
  | cons first rest ih =>
      rw [addTo] at hmem
      split at hmem
      next => exact (List.mem_cons.mp hmem).imp_right (List.mem_cons_of_mem _)
      next =>
        rcases List.mem_cons.mp hmem with rfl | hrest
        · exact .inr List.mem_cons_self
        · exact (ih hrest).imp_right (List.mem_cons_of_mem _)

theorem addTo_ne_nil (record : Instance) (records : List Instance) : addTo record records ≠ [] := by
  cases records with
  | nil => simp [addTo]
  | cons first rest =>
      rw [addTo]
      split <;> simp

/-- Where no id occurs twice, removing the first record with an id removes all of them. -/
theorem eraseP_eq_filter {records : List Instance} (hdistinct : (records.map Instance.id).Nodup)
    (id : String) : records.eraseP (·.id = id) = records.filter (·.id ≠ id) := by
  induction records with
  | nil => rfl
  | cons first rest ih =>
      obtain ⟨hfirst, hrest⟩ := List.nodup_cons.mp hdistinct
      by_cases hid : first.id = id
      · have hothers : ∀ other ∈ rest, ¬ other.id = id := by
          rintro other hother rfl
          exact hfirst (hid ▸ List.mem_map_of_mem hother)
        rw [List.eraseP_cons_of_pos (by simpa using hid),
          List.filter_cons_of_neg (by simpa using hid),
          List.filter_eq_self.mpr (by simpa using hothers)]
      · simpa [hid] using ih hrest

theorem nodup_ids_add {app : Application} (hdistinct : app.ids.Nodup) (record : Instance) :
    (app.add record).ids.Nodup := by
  have hids : (app.add record).ids =
      if record.id ∈ app.ids then app.ids else app.ids ++ [record.id] :=
    map_id_addTo record app.instances
  rw [hids]
  split
  next => exact hdistinct
  next hnew =>
    refine List.nodup_append.mpr ⟨hdistinct, by simp, ?_⟩
    rintro id hid other hother rfl
    exact hnew (List.mem_singleton.mp hother ▸ hid)

theorem nodup_ids_remove {app : Application} (hdistinct : app.ids.Nodup) (id : String) :
    (app.remove id).2.ids.Nodup :=
  hdistinct.sublist (List.eraseP_sublist.map Instance.id)

/-- The application is filed under a key: it has the name of the key, and its records are of this
application, no two of them with one id. -/
structure FiledUnder (key : String) (app : Application) : Prop where
  name_eq : app.name = Text.upper key
  records : ∀ record ∈ app.instances, record.app = key
  distinct : app.ids.Nodup

namespace FiledUnder

variable {key : String} {app : Application}

theorem new (key : String) : (Application.new key).FiledUnder key where
  name_eq := rfl
  records := by simp [Application.new]
  distinct := by simp [Application.new, ids]

theorem add (hfiled : app.FiledUnder key) {record : Instance} (hrecord : record.app = key) :
    (app.add record).FiledUnder key where
  name_eq := hfiled.name_eq
  records other hother := by
    rcases mem_addTo hother with rfl | hmem
    · exact hrecord
    · exact hfiled.records other hmem
  distinct := nodup_ids_add hfiled.distinct record

theorem remove (hfiled : app.FiledUnder key) (id : String) : (app.remove id).2.FiledUnder key where
  name_eq := hfiled.name_eq
  records record hmem := hfiled.records record (List.mem_of_mem_eraseP hmem)
  distinct := nodup_ids_remove hfiled.distinct id

end FiledUnder

end Application

/-! ## What a step changes -/

/-- What is done with a registry. -/
inductive RegistryStep : Type 1 where
  /-- A record is put there without a request. -/
  | put (record : Instance)
  | submit {α : Type} (now : Timestamp) (request : Request α)
  | evict (app id : String)
  | scheduleFailure (error : ClientError)

/-- What becomes of the records of a registry. -/
inductive RegistryChange where
  | store (record : Instance)
  /-- The record with an id is removed from an application, which is looked for in upper case. -/
  | remove (app id : String)
  | none

namespace RegistryChange

/-- The application, as it is spelled, and the id of the record that is changed. -/
def address? : RegistryChange → Option (String × String)
  | .store record => some (record.app, record.id)
  | .remove app id => some (Text.upper app, id)
  | .none => Option.none

def apply (registry : Registry) : RegistryChange → Registry
  | .store record => registry.store record
  | .remove app id => (registry.evict app id).2
  | .none => registry

end RegistryChange

namespace RegistryStep

def after (registry : Registry) : RegistryStep → Registry
  | .put record => registry.store record
  | .submit now request => (registry.submit now request).2
  | .evict app id => (registry.evict app id).2
  | .scheduleFailure error => registry.scheduleFailure error

/-- What an accepted request changes. -/
def requestChange {α : Type} (now : Timestamp) : Request α → RegistryChange
  | .register record => .store (Registry.stored now record)
  | .cancel app id => .remove app id
  | .heartbeat _ | .lookup _ => .none

/-- What a step changes. A request that a scheduled failure answers changes nothing. -/
def change (registry : Registry) : RegistryStep → RegistryChange
  | .put record => .store record
  | .submit now request => if registry.failures = [] then requestChange now request else .none
  | .evict app id => .remove app id
  | .scheduleFailure _ => .none

/-- A step does to the records what its change says. -/
theorem applications_after (registry : Registry) (step : RegistryStep) :
    (step.after registry).applications = ((step.change registry).apply registry).applications := by
  cases step with
  | put record => rfl
  | evict app id => rfl
  | scheduleFailure error => rfl
  | submit now request =>
      rw [after, change]
      split
      next haccepted =>
        rw [Registry.submit_of_failures_eq_nil now request haccepted]
        cases request <;> rfl
      next hrefused =>
        obtain ⟨error, left, hfailures⟩ := List.exists_cons_of_ne_nil hrefused
        rw [Registry.submit_of_failures_eq_cons now request hfailures, RegistryChange.apply]

end RegistryStep

namespace Registry

/-- The registry after a run from the empty one. -/
def run (steps : List RegistryStep) : Registry :=
  steps.foldl RegistryStep.after .empty

/-! ## The invariant -/

/-- No application is empty, and every application is filed under its key. -/
structure WellKept (registry : Registry) : Prop where
  nonempty : ∀ key app, registry.applications.get? key = some app → app.instances ≠ []
  filed : ∀ key app, registry.applications.get? key = some app → app.FiledUnder key

namespace WellKept

variable {registry : Registry}

theorem of_get? (hkept : ∀ key app, registry.applications.get? key = some app →
    app.instances ≠ [] ∧ app.FiledUnder key) : registry.WellKept where
  nonempty key app hget := (hkept key app hget).1
  filed key app hget := (hkept key app hget).2

theorem congr (hkept : registry.WellKept) {other : Registry}
    (happlications : other.applications = registry.applications) : other.WellKept where
  nonempty := by rw [happlications]; exact hkept.nonempty
  filed := by rw [happlications]; exact hkept.filed

theorem empty : Registry.empty.WellKept where
  nonempty key app hget := by cases hget
  filed key app hget := by cases hget

theorem insert (hkept : registry.WellKept) {key : String} {app : Application}
    (hnonempty : app.instances ≠ []) (hfiled : app.FiledUnder key) :
    WellKept { registry with applications := registry.applications.insert key app } := by
  refine of_get? ?_
  intro other found hfound
  simp only [Table.get?_insert] at hfound
  split at hfound
  next heq =>
    cases hfound
    subst heq
    exact ⟨hnonempty, hfiled⟩
  next => exact ⟨hkept.nonempty other found hfound, hkept.filed other found hfound⟩

theorem erase (hkept : registry.WellKept) (key : String) :
    WellKept { registry with applications := registry.applications.erase key } := by
  refine of_get? ?_
  intro other found hfound
  simp only [Table.get?_erase] at hfound
  split at hfound
  next => cases hfound
  next => exact ⟨hkept.nonempty other found hfound, hkept.filed other found hfound⟩

theorem store (hkept : registry.WellKept) (record : Instance) :
    (registry.store record).WellKept := by
  have hbefore : ((registry.applications.get? record.app).getD (.new record.app)).FiledUnder
      record.app := by
    cases hfound : registry.applications.get? record.app with
    | none => exact .new record.app
    | some found => exact hkept.filed _ _ hfound
  exact hkept.insert (Application.addTo_ne_nil record _) (hbefore.add rfl)

theorem evict (hkept : registry.WellKept) (app id : String) :
    (registry.evict app id).2.WellKept := by
  cases hfound : registry.applications.get? (Text.upper app) with
  | none =>
      rw [evict_of_none id hfound]
      exact hkept
  | some found =>
      rw [evict_of_some id hfound, keep]
      split
      next => exact hkept.erase _
      next hnonempty =>
        exact hkept.insert (by simpa using hnonempty) ((hkept.filed _ _ hfound).remove id)

theorem after (hkept : registry.WellKept) (step : RegistryStep) :
    (step.after registry).WellKept := by
  refine congr ?_ (step.applications_after registry)
  cases step.change registry with
  | store record => exact hkept.store record
  | remove app id => exact hkept.evict app id
  | none => exact hkept

theorem run (steps : List RegistryStep) : (Registry.run steps).WellKept := by
  have hall : ∀ {registry : Registry}, registry.WellKept →
      (steps.foldl RegistryStep.after registry).WellKept := by
    induction steps with
    | nil => exact fun hkept => hkept
    | cons step rest ih => exact fun hkept => ih (hkept.after step)
  exact hall empty

/-- An application is known under a key if and only if there are records under the key, and then it
has these records. -/
theorem get?_eq (hkept : registry.WellKept) (key : String) :
    registry.applications.get? key =
      if registry.members key = [] then none else some ⟨Text.upper key, registry.members key⟩ := by
  cases hfound : registry.applications.get? key with
  | none => simp [members, hfound]
  | some found =>
      have hname := (hkept.filed key found hfound).name_eq
      simp [members, hfound, hkept.nonempty key found hfound, ← hname]

theorem distinct_members (hkept : registry.WellKept) (key : String) :
    ((registry.members key).map Instance.id).Nodup := by
  cases hfound : registry.applications.get? key with
  | none => simp [members, hfound]
  | some found =>
      rw [members, hfound]
      exact (hkept.filed key found hfound).distinct

theorem members_evict_eq_filter (hkept : registry.WellKept) (app id : String) :
    (registry.evict app id).2.members (Text.upper app) =
      (registry.members (Text.upper app)).filter (·.id ≠ id) := by
  rw [members_evict, if_pos rfl, Application.eraseP_eq_filter (hkept.distinct_members _)]

end WellKept

end Registry

/-! ## The effect of a step -/

/-- A change concerns at most one record. -/
structure RegistryChange.Effect (change : RegistryChange) (before after : Registry) : Prop where
  /-- All other records stay as they are and in their order. -/
  others : ∀ key,
    (after.members key).filter (fun record => change.address? ≠ some (key, record.id)) =
      (before.members key).filter fun record => change.address? ≠ some (key, record.id)
  /-- A record that is stored takes the place of the one with its id. -/
  replaces : ∀ record, change = .store record → ∀ front old back,
    before.members record.app = front ++ old :: back → old.id = record.id →
      after.members record.app = front ++ record :: back
  /-- If there is none, it comes last. -/
  appends : ∀ record, change = .store record →
    (∀ other ∈ before.members record.app, other.id ≠ record.id) →
      after.members record.app = before.members record.app ++ [record]
  removes : ∀ app id, change = .remove app id →
    ∀ record ∈ after.members (Text.upper app), record.id ≠ id
  rests : change = .none → after.applications = before.applications

namespace RegistryChange

variable {before after : Registry}

/-- Only what a registry holds matters to the effect of a change. -/
theorem Effect.congr {change : RegistryChange} (heffect : change.Effect before after)
    {other : Registry} (happlications : other.applications = after.applications) :
    change.Effect before other where
  others := by rw [Registry.members_congr happlications]; exact heffect.others
  replaces := by rw [Registry.members_congr happlications]; exact heffect.replaces
  appends := by rw [Registry.members_congr happlications]; exact heffect.appends
  removes := by rw [Registry.members_congr happlications]; exact heffect.removes
  rests := by rw [happlications]; exact heffect.rests

theorem effect_store (hkept : before.WellKept) (record : Instance) :
    (RegistryChange.store record).Effect before (before.store record) where
  others key := by
    rw [Registry.members_store]
    split
    next hkey =>
      subst hkey
      exact Application.filter_addTo
        (p := fun id => (RegistryChange.store record).address? ≠ some (record.app, id))
        (by simp [address?]) _
    next => rfl
  replaces stored hstored front old back hmembers hold := by
    cases hstored
    have hdistinct := hkept.distinct_members record.app
    rw [hmembers, List.map_append, List.nodup_append] at hdistinct
    rw [Registry.members_store, if_pos rfl, hmembers]
    refine Application.addTo_append_cons hold ?_
    rintro other hother heq
    exact hdistinct.2.2 _ (List.mem_map_of_mem hother) old.id (by simp) (heq.trans hold.symm)
  appends stored hstored hnew := by
    cases hstored
    rw [Registry.members_store, if_pos rfl, Application.addTo_eq_append hnew]
  removes app id hremoved := by cases hremoved
  rests hnone := by cases hnone

theorem effect_remove (hkept : before.WellKept) (app id : String) :
    (RegistryChange.remove app id).Effect before (before.evict app id).2 where
  others key := by
    rw [Registry.members_evict]
    split
    next hkey =>
      subst hkey
      exact Application.filter_eraseP
        (p := fun other => (RegistryChange.remove app id).address? ≠ some (Text.upper app, other))
        (by simp [address?]) _
    next => rfl
  replaces record hstored := by cases hstored
  appends record hstored := by cases hstored
  removes removed removedId hremoved record hmem := by
    cases hremoved
    rw [hkept.members_evict_eq_filter] at hmem
    simpa using (List.mem_filter.mp hmem).2
  rests hnone := by cases hnone

theorem effect_none (before : Registry) : RegistryChange.none.Effect before before where
  others _ := rfl
  replaces record hstored := by cases hstored
  appends record hstored := by cases hstored
  removes app id hremoved := by cases hremoved
  rests _ := rfl

end RegistryChange

theorem Registry.WellKept.effect {registry : Registry} (hkept : registry.WellKept)
    (step : RegistryStep) :
    (step.change registry).Effect registry (step.after registry) := by
  refine RegistryChange.Effect.congr ?_ (step.applications_after registry)
  cases step.change registry with
  | store record => exact RegistryChange.effect_store hkept record
  | remove app id => exact RegistryChange.effect_remove hkept app id
  | none => exact RegistryChange.effect_none registry

/-- A registry is an ordered map from applications and ids to records, however it came about: it is
known by the records under its keys, and every step changes at most one of them. -/
theorem Registry.holds_ordered_map (steps : List RegistryStep) :
    (run steps).WellKept ∧
    (∀ key, (run steps).applications.get? key =
      if (run steps).members key = [] then none
      else some ⟨Text.upper key, (run steps).members key⟩) ∧
    ∀ step : RegistryStep,
      (step.change (run steps)).Effect (run steps) (step.after (run steps)) := by
  have hkept := WellKept.run steps
  exact ⟨hkept, hkept.get?_eq, hkept.effect⟩

end MemberDiscovery
