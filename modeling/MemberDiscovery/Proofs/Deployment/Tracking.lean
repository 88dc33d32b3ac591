import MemberDiscovery.Proofs.Deployment.Connection

/-! # What becomes of a registry by requests for one record

`Registry.Gained` follows what a registry holds through requests of which only registrations of one
record are changes: other records stay, and the record is there if it was there before or one of the
registrations was taken. `Deployment.Tracked` says this of a deployment and the record of a manager.
-/

namespace MemberDiscovery

namespace Registry

/-- What becomes of a registry by requests that are noted, of which only registrations of one record
change what it holds. -/
structure Gained (app id : String) (before after : Registry) (noted : List Operation) : Prop where
  operations : after.operations = before.operations ++ noted
  /-- Other records stay as they are. -/
  others : ∀ key record, ¬ (key = app ∧ record.id = id) →
    (record ∈ after.members key ↔ record ∈ before.members key)
  /-- The record is there if it was there or was registered. -/
  own : after.copies app id ≠ [] ↔
    before.copies app id ≠ [] ∨ ∃ status, Operation.register app id status ∈ noted

namespace Gained

variable {app id : String} {before middle after : Registry} {earlier later : List Operation}

theorem trans (hearlier : Gained app id before middle earlier)
    (hlater : Gained app id middle after later) :
    Gained app id before after (earlier ++ later) where
  operations := by rw [hlater.operations, hearlier.operations, List.append_assoc]
  others key record hother :=
    (hlater.others key record hother).trans (hearlier.others key record hother)
  own := by
    rw [hlater.own, hearlier.own, or_assoc]
    simp only [List.mem_append, exists_or]

theorem of_applications_eq (happlications : after.applications = before.applications)
    (hoperations : after.operations = before.operations ++ later)
    (hlater : ∀ status, Operation.register app id status ∉ later) :
    Gained app id before after later where
  operations := hoperations
  others key record _ := by rw [members_congr happlications]
  own := by simp [copies_congr happlications, hlater]

theorem accept_register (now : Timestamp) (record : Instance) (registry : Registry) :
    Gained record.app record.id registry (registry.accept now (.register record)).2
      [.register record.app record.id record.status] where
  operations := rfl
  others key other hother := by
    have hmembers := congrFun (members_congr (Registry.accept_register now record registry)) key
    rw [hmembers, members_store]
    split
    next hkey =>
      have hid : other.id ≠ record.id := fun heq => hother ⟨hkey, heq⟩
      -- Storing moves nothing among the records with another id.
      have hfilter := Application.filter_addTo_of_ne (stored now record) (registry.members key) hid
      have hmem : ∀ records : List Instance,
          other ∈ records ↔ other ∈ records.filter (·.id = other.id) := by simp
      rw [hmem, hfilter, ← hmem]
    next => rfl
  own := by
    rw [copies_congr (Registry.accept_register now record registry), copies_store,
      if_pos ⟨rfl, rfl⟩]
    simp

end Gained

end Registry

namespace Deployment

/-- A publication registers the record or changes nothing. -/
theorem Publication.gained {registry manager : Nat} {before after : Deployment}
    {answer : Except ClientError Unit}
    (hpublication : Publication registry manager before answer after) :
    ∃ noted, Registry.Gained (before.managers.get manager).record.app
        (before.managers.get manager).record.id (before.registries.get registry)
        (after.registries.get registry) noted ∧
      ((before.registries.get registry).failures = [] →
        ∃ status, Operation.register (before.managers.get manager).record.app
          (before.managers.get manager).record.id status ∈ noted) := by
  cases hpublication with
  | taken trace =>
      refine ⟨[.register (before.managers.get manager).record.app
        (before.managers.get manager).record.id (before.managers.get manager).record.status],
        ?_, fun _ => ⟨_, List.mem_singleton_self _⟩⟩
      rw [registry_published]
      exact .accept_register _ _ _
  | refused error left trace hleft hless =>
      refine ⟨[], ?_, ?_⟩
      · simp only [Deployment.refused, Deployment.registries_setRegistry, Slots.get_set, if_pos]
        exact .of_applications_eq rfl (List.append_nil _).symm (by simp)
      · intro hnone
        simp [hnone] at hless

/-- Others only make requests fail during the sleeps to come. -/
def Undisturbed (deployment : Deployment) : Prop :=
  ∀ interventions ∈ deployment.interventions, ∀ intervention ∈ interventions,
    ∃ registry error, intervention = .scheduleFailure registry error

/-- What becomes of a registry and of the identity of a record by requests for this record. -/
structure Tracked (registry manager : Nat) (before after : Deployment) (noted : List Operation) :
    Prop where
  config : (after.managers.get manager).config = (before.managers.get manager).config
  app : (after.managers.get manager).record.app = (before.managers.get manager).record.app
  id : (after.managers.get manager).record.id = (before.managers.get manager).record.id
  gained : Registry.Gained (before.managers.get manager).record.app
    (before.managers.get manager).record.id (before.registries.get registry)
    (after.registries.get registry) noted
  undisturbed : before.Undisturbed → after.Undisturbed

namespace Tracked

variable {registry manager : Nat} {before middle after : Deployment}
  {earlier later : List Operation}

theorem trans (hfirst : Tracked registry manager before middle earlier)
    (hsecond : Tracked registry manager middle after later) :
    Tracked registry manager before after (earlier ++ later) where
  config := hsecond.config.trans hfirst.config
  app := hsecond.app.trans hfirst.app
  id := hsecond.id.trans hfirst.id
  gained := by
    have hgained := hsecond.gained
    rw [hfirst.app, hfirst.id] at hgained
    exact hfirst.gained.trans hgained
  undisturbed hbefore := hsecond.undisturbed (hfirst.undisturbed hbefore)

theorem of_registries_eq
    (hconfig : (after.managers.get manager).config = (before.managers.get manager).config)
    (happ : (after.managers.get manager).record.app = (before.managers.get manager).record.app)
    (hid : (after.managers.get manager).record.id = (before.managers.get manager).record.id)
    (hregistries : after.registries.get registry = before.registries.get registry)
    (hundisturbed : before.Undisturbed → after.Undisturbed) :
    Tracked registry manager before after [] where
  config := hconfig
  app := happ
  id := hid
  gained := .of_applications_eq (by rw [hregistries]) (by rw [hregistries, List.append_nil])
    (by simp)
  undisturbed := hundisturbed

theorem of_publication {answer : Except ClientError Unit}
    (hpublication : Publication registry manager before answer after) :
    ∃ noted, Tracked registry manager before after noted ∧
      ((before.registries.get registry).failures = [] →
        ∃ status, Operation.register (before.managers.get manager).record.app
          (before.managers.get manager).record.id status ∈ noted) := by
  obtain ⟨noted, hgained, hnoted⟩ := hpublication.gained
  refine ⟨noted, ?_, hnoted⟩
  cases hpublication with
  | taken trace =>
      constructor
      · simp
      · simp
      · simp [Instance.id]
      · exact hgained
      · exact fun hbefore => hbefore
  | refused error left trace => exact ⟨rfl, rfl, rfl, hgained, fun hbefore => hbefore⟩

theorem of_connect {settings : ClientSettings} {number : Nat}
    (hshare : (before.managers.get manager).ClientsShareId)
    (hregisters : settings.registers = true)
    (hconnect : (Action.connect manager settings (.memory registry)).exec before =
      (.ok number, after)) :
    after.Attached registry manager number ∧
      ∃ noted, Tracked registry manager before after noted ∧
        ((before.registries.get registry).failures = [] →
          ∃ status, Operation.register (before.managers.get manager).record.app
            (before.managers.get manager).record.id status ∈ noted) := by
  obtain ⟨hurls, rfl, answer, hpublication⟩ :=
    Action.connected_of_exec_connect hregisters hconnect
  have hconnected : Tracked registry manager before
      (before.connected (.ofMemory manager settings registry
        (before.managers.get manager).record)) [] := by
    apply of_registries_eq <;>
      simp [Deployment.connected, RegistryClient.ofMemory, RegistryClient.fresh,
        InstanceManager.listen, Undisturbed]
  obtain ⟨noted, htracked, hnoted⟩ := of_publication hpublication
  rw [hconnected.app, hconnected.id] at hnoted
  exact ⟨(Attached.connected registry _ hshare hurls).publication hpublication, noted,
    hconnected.trans htracked, hnoted⟩

end Tracked

end Deployment

end MemberDiscovery
