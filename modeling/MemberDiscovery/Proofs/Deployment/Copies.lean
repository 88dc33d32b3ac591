import MemberDiscovery.Proofs.Deployment.Session

/-! # What a registry's copy is a copy of

A session with a client is watched: beside the deployment, the record of the last registration that
the registry took is remembered. `Deployment.Effect` says once what a step can do to the record and
to its copies. From it follows, at every point of every session, that the registry has the record at
most once and as it was registered last, and that a record which is not dirty is still as it was
registered last.
-/

namespace MemberDiscovery

/-- What a registration tells about a record: all but the dirty mark and the time of the last
update, which a registry notes itself. -/
def Instance.told (record : Instance) : Instance :=
  { record with dirty := false, lastUpdated := 0 }

@[simp] theorem Registry.told_stored (now : Timestamp) (record : Instance) :
    (stored now record).told = record.told := rfl

@[simp] theorem Instance.told_clean (record : Instance) :
    Instance.told { record with dirty := false } = record.told := rfl

namespace Registry

def isRegistration (app id : String) : Operation → Bool
  | .register otherApp otherId _ => otherApp = app && otherId = id
  | _ => false

/-- How many registrations of a record were taken. -/
def registrations (registry : Registry) (app id : String) : Nat :=
  registry.operations.countP (isRegistration app id)

theorem registrations_congr {left right : Registry} (h : left.operations = right.operations)
    (app id : String) : left.registrations app id = right.registrations app id := by
  rw [registrations, registrations, h]

theorem registrations_accept_register (now : Timestamp) (record : Instance) (registry : Registry) :
    (registry.accept now (.register record)).2.registrations record.app record.id =
      registry.registrations record.app record.id + 1 := by
  simp [registrations, Request.operation, isRegistration]

theorem registrations_accept_heartbeat (now : Timestamp) (record : Instance) (registry : Registry)
    (app id : String) :
    (registry.accept now (.heartbeat record)).2.registrations app id =
      registry.registrations app id := by
  simp [registrations, Request.operation, isRegistration]

theorem registrations_accept_lookup (now : Timestamp) (looked : String) (registry : Registry)
    (app id : String) :
    (registry.accept now (.lookup looked)).2.registrations app id =
      registry.registrations app id := by
  simp [registrations, Request.operation, isRegistration]

/-- A registry has a record at most once, and as it was registered last; and if the record is not
dirty, that is how it still is. -/
structure Reflects (registry : Registry) (app id : String) (record : Instance)
    (registered : Option Instance) : Prop where
  unique : (registry.copies app id).length ≤ 1
  copy : ∀ copy ∈ registry.copies app id, ∃ last, registered = some last ∧ copy.told = last.told
  clean : ∀ last, registered = some last → record.dirty = false → record.told = last.told

/-- A registry without the record, of which no registration was seen. -/
theorem Reflects.of_copies_eq_nil {registry : Registry} {app id : String}
    (hnone : registry.copies app id = []) (record : Instance) :
    registry.Reflects app id record none where
  unique := by simp [hnone]
  copy := by simp [hnone]
  clean last hlast := by cases hlast

end Registry

/-- A deployment, and the record of the last registration that a registry took. -/
structure Watched where
  deployment : Deployment
  registered : Option Instance

namespace Watched

/-- Goes on to a later deployment. If a registration was taken on the way, it was that of a given
record. -/
def goTo (registry : Nat) (app id : String) (after : Deployment) (record : Instance)
    (watched : Watched) : Watched where
  deployment := after
  registered :=
    if (after.registries.get registry).registrations app id =
        (watched.deployment.registries.get registry).registrations app id then watched.registered
    else some record

end Watched

namespace Deployment

section Views

variable (registry manager : Nat) (app id : String) (left : List ClientError)
  (deployment : Deployment)

@[simp] theorem copies_renewed :
    ((deployment.renewed registry manager).registries.get registry).copies app id =
      (deployment.registries.get registry).copies app id := by
  simp [renewed, Registry.copies_congr (Registry.accept_heartbeat_applications _ _ _)]

@[simp] theorem registrations_renewed :
    ((deployment.renewed registry manager).registries.get registry).registrations app id =
      (deployment.registries.get registry).registrations app id := by
  simp [renewed, Registry.registrations_accept_heartbeat]

@[simp] theorem copies_refused :
    ((deployment.refused registry left).registries.get registry).copies app id =
      (deployment.registries.get registry).copies app id := by
  simp only [refused, registries_setRegistry, Slots.get_set, if_pos]
  rfl

@[simp] theorem registrations_refused :
    ((deployment.refused registry left).registries.get registry).registrations app id =
      (deployment.registries.get registry).registrations app id := by
  simp only [refused, registries_setRegistry, Slots.get_set, if_pos]
  rfl

/-- Listening leaves the record as it is. -/
theorem record_connected (client : RegistryClient) :
    ((deployment.connected client).managers.get manager).record =
      (deployment.managers.get manager).record := by
  by_cases hmanager : manager = client.manager <;>
    simp [Deployment.connected, InstanceManager.listen, hmanager]

end Views

/-- What a step may do to the record of a manager and to the copies that a registry has of it, where
the record is the one with which the step would register. -/
inductive Effect (registry manager : Nat) (app id : String) (record : Instance)
    (before after : Deployment) : Prop where
  /-- The record stays as it is, and no copy is added. -/
  | kept
      (hrecord : (after.managers.get manager).record = (before.managers.get manager).record)
      (hcopies : ((after.registries.get registry).copies app id).Sublist
        ((before.registries.get registry).copies app id))
      (hcount : (after.registries.get registry).registrations app id =
        (before.registries.get registry).registrations app id)
  /-- The record is dirty, and the copies stay. -/
  | edited
      (hdirty : (after.managers.get manager).record.dirty = true)
      (hcopies : (after.registries.get registry).copies app id =
        (before.registries.get registry).copies app id)
      (hcount : (after.registries.get registry).registrations app id =
        (before.registries.get registry).registrations app id)
  /-- The record is registered. -/
  | registered (now : Timestamp)
      (hrecord : (after.managers.get manager).record = { record with dirty := false })
      (hcopies : (after.registries.get registry).copies app id =
        Registry.stored now record :: ((before.registries.get registry).copies app id).tail)
      (hcount : (after.registries.get registry).registrations app id =
        (before.registries.get registry).registrations app id + 1)

namespace Effect

variable {registry manager : Nat} {app id : String} {record : Instance}
  {before middle after : Deployment}

/-- What holds of the copies before a step holds of them after it. -/
theorem reflects (heffect : Effect registry manager app id record before after)
    {registered : Option Instance}
    (hreflects : (before.registries.get registry).Reflects app id
      (before.managers.get manager).record registered) :
    (after.registries.get registry).Reflects app id (after.managers.get manager).record
      (Watched.goTo registry app id after record ⟨before, registered⟩).registered := by
  simp only [Watched.goTo]
  cases heffect with
  | kept hrecord hcopies hcount =>
      rw [hrecord, if_pos hcount]
      exact ⟨Nat.le_trans hcopies.length_le hreflects.unique,
        fun copy hcopy => hreflects.copy copy (hcopies.subset hcopy), hreflects.clean⟩
  | edited hdirty hcopies hcount =>
      rw [if_pos hcount]
      refine ⟨?_, ?_, ?_⟩
      · rw [hcopies]; exact hreflects.unique
      · rw [hcopies]; exact hreflects.copy
      · intro last _ hclean
        rw [hdirty] at hclean
        exact absurd hclean (by decide)
  | registered now hrecord hcopies hcount =>
      -- The one copy that there may have been is the one that is replaced.
      have htail : ((before.registries.get registry).copies app id).tail = [] := by
        rw [← List.length_eq_zero_iff, List.length_tail]
        have hunique := hreflects.unique
        omega
      rw [htail] at hcopies
      rw [if_neg (by omega)]
      refine ⟨by simp [hcopies], ?_, ?_⟩
      · intro copy hcopy
        rw [hcopies, List.mem_singleton] at hcopy
        subst hcopy
        exact ⟨record, rfl, rfl⟩
      · intro last hlast _
        cases hlast
        simp [hrecord]

/-- An effect is a matter of the record, the copies and the number of registrations. -/
theorem congr (heffect : Effect registry manager app id record before middle)
    (hrecord : (after.managers.get manager).record = (middle.managers.get manager).record)
    (hcopies : (after.registries.get registry).copies app id =
      (middle.registries.get registry).copies app id)
    (hcount : (after.registries.get registry).registrations app id =
      (middle.registries.get registry).registrations app id) :
    Effect registry manager app id record before after := by
  cases heffect with
  | kept hkept hless hsame =>
      exact .kept (hrecord.trans hkept) (hcopies ▸ hless) (hcount.trans hsame)
  | edited hdirty hsame hnone =>
      exact .edited (hrecord ▸ hdirty) (hcopies.trans hsame) (hcount.trans hnone)
  | registered now hsent hmore hone =>
      exact .registered now (hrecord.trans hsent) (hcopies.trans hmore) (hcount.trans hone)

theorem refl : Effect registry manager app id record before before :=
  .kept rfl (List.Sublist.refl _) rfl

/-- A publication that follows upon changes of the record alone registers the record as it is then,
or adds nothing to them. -/
theorem of_publication {answer : Except ClientError Unit}
    (hpublication : Publication registry manager middle answer after)
    (heffect : Effect registry manager app id
      (middle.managers.get manager).record before middle)
    (hcopies : (middle.registries.get registry).copies app id =
      (before.registries.get registry).copies app id)
    (hcount : (middle.registries.get registry).registrations app id =
      (before.registries.get registry).registrations app id)
    (happ : (middle.managers.get manager).record.app = app)
    (hid : (middle.managers.get manager).record.id = id) :
    Effect registry manager app id (middle.managers.get manager).record before after := by
  cases hpublication with
  | taken trace =>
      refine .registered middle.clock (by simp) ?_ ?_
      · rw [← hcopies, ← happ, ← hid]
        simp [Registry.copies_congr (Registry.accept_register _ _ _), Registry.copies_store,
          Registry.stored, Instance.id]
      · rw [← hcount, ← happ, ← hid, registry_published,
          Registry.registrations_accept_register]
  | refused error left trace =>
      exact heffect.congr rfl (copies_refused _ _ _ _ _) (registrations_refused _ _ _ _ _)

end Effect

end Deployment

/-- The record with which a step registers, if it does: a new status is there before it is sent. -/
def SessionStep.recordSent (manager : Nat) (deployment : Deployment) : SessionStep → Instance
  | .setStatus status => ((deployment.restated manager status).managers.get manager).record
  | _ => (deployment.managers.get manager).record

namespace Session

variable {registry manager number : Nat} {app id : String} {deployment : Deployment}

theorem effect_setStatus (hsession : Session registry manager number app id deployment)
    (status : InstanceStatus) :
    deployment.Effect registry manager app id
      ((deployment.restated manager status).managers.get manager).record
      ((Action.setStatus manager status).exec deployment).2 := by
  by_cases hstatus : (deployment.managers.get manager).record.status = status
  · rw [Action.exec_setStatus_of_eq hstatus]
    exact .refl
  · obtain ⟨client, hclient, hmanager, hserved, hlive⟩ := hsession.attached.client
    obtain ⟨answer, hpublication⟩ := Action.exec_setStatus_published hsession.attached.publishers
      hclient hserved hlive hstatus
    rw [hmanager] at hpublication
    refine .of_publication hpublication (.edited ?_ rfl rfl) rfl rfl ?_ ?_
    · simp [Deployment.restated, InstanceManager.setStatus, Instance.setStatus, hstatus,
        Instance.markDirty]
    · simpa [Deployment.restated] using hsession.app_eq
    · simpa [Deployment.restated] using hsession.id_eq

theorem effect_renew (hsession : Session registry manager number app id deployment)
    {answer : Except ClientError Unit} {after : Deployment}
    (hrenewal : deployment.Renewal registry manager answer after) :
    deployment.Effect registry manager app id (deployment.managers.get manager).record after := by
  have hrenewed : deployment.Effect registry manager app id (deployment.managers.get manager).record
      (deployment.renewed registry manager) := .congr .refl rfl (by simp) (by simp)
  cases hrenewal with
  | refused error left trace =>
      exact .congr .refl rfl (Deployment.copies_refused _ _ _ _ _)
        (Deployment.registrations_refused _ _ _ _ _)
  | known trace => exact hrenewed.congr rfl rfl rfl
  | lost answer after hlost hpublication =>
      -- A heartbeat leaves the record as it is, so it is the one from before that is sent.
      have hsent := Deployment.Effect.of_publication hpublication hrenewed (by simp) (by simp)
        hsession.app_eq hsession.id_eq
      exact hsent

theorem effect_lookup (hsession : Session registry manager number app id deployment)
    (looked : String) (record : Instance) :
    deployment.Effect registry manager app id record
      ((Action.lookup number looked).exec deployment).2 := by
  obtain ⟨client, hclient, -, hserved, hlive⟩ := hsession.attached.client
  cases hfetches : client.settings.fetches with
  | false =>
      rw [Action.exec_lookup_of_fetches_eq_false hclient hlive hfetches]
      exact .refl
  | true =>
      obtain ⟨answer, after, hexec, houtcome⟩ :=
        Action.exec_lookup_of_servedBy hclient hserved hlive hfetches looked
      rw [hexec]
      refine .congr .refl rfl ?_ ?_
      · simp only [Deployment.registries_setRegistry, Slots.get_set, if_pos]
        cases houtcome with
        | refused error left => rfl
        | taken => rw [Registry.copies_congr (Registry.accept_lookup_applications _ _ _)]
      · simp only [Deployment.registries_setRegistry, Slots.get_set, if_pos]
        cases houtcome with
        | refused error left => rfl
        | taken => exact Registry.registrations_accept_lookup _ _ _ _ _

theorem effect_evict (evicted removed : String) (record : Instance) :
    deployment.Effect registry manager app id record
      (deployment.intervene (.evict registry evicted removed)) := by
  refine .kept rfl ?_ ?_
  · simp only [Deployment.intervene, Deployment.registries_setRegistry, Slots.get_set, if_pos,
      Registry.copies_evict]
    split
    · exact List.tail_sublist _
    · exact List.Sublist.refl _
  · simp only [Deployment.intervene, Deployment.registries_setRegistry, Slots.get_set, if_pos]
    exact Registry.registrations_congr (Registry.evict_operations _ _ _) _ _

/-- What every step of a session does. -/
theorem effect (hsession : Session registry manager number app id deployment)
    (step : SessionStep) :
    deployment.Effect registry manager app id (step.recordSent manager deployment)
      ((step.action registry manager number).exec deployment).2 := by
  cases step with
  | setStatus status => exact hsession.effect_setStatus status
  | update change =>
      refine .edited ?_ rfl rfl
      simp [SessionStep.action, Action.updateRecord, InstanceManager.update, Instance.markDirty]
  | addMetadata entries =>
      refine .edited ?_ rfl rfl
      simp [SessionStep.action, Action.addMetadata, InstanceManager.addMetadata,
        InstanceManager.update, Instance.markDirty]
  | renew =>
      obtain ⟨client, hclient, hmanager, hserved, hlive⟩ := hsession.attached.client
      have hrenewal := Action.exec_renew hserved hlive deployment
      rw [hmanager] at hrenewal
      simp only [SessionStep.action, Action.exec_bind, Action.exec_get, hclient, Action.exec_pure]
      exact hsession.effect_renew hrenewal
  | lookup looked => exact hsession.effect_lookup looked _
  | evict evicted removed => exact effect_evict evicted removed _
  | scheduleFailure error =>
      refine .congr .refl rfl ?_ ?_ <;>
      · simp only [SessionStep.action, Action.exec_modify, Deployment.intervene,
          Deployment.registries_setRegistry, Slots.get_set, if_pos]
        rfl
  | advance milliseconds => exact .congr .refl rfl rfl rfl

/-- While no request fails, a change of the status leaves the record clean. -/
theorem setStatus_clean (hsession : Session registry manager number app id deployment)
    {status : InstanceStatus}
    (hstatus : (deployment.managers.get manager).record.status ≠ status)
    (hfailures : (deployment.registries.get registry).failures = []) :
    (((Action.setStatus manager status).exec deployment).2.managers.get manager).record.dirty =
      false := by
  obtain ⟨client, hclient, hmanager, hserved, hlive⟩ := hsession.attached.client
  obtain ⟨answer, hpublication⟩ := Action.exec_setStatus_published hsession.attached.publishers
    hclient hserved hlive hstatus
  rw [hmanager] at hpublication
  obtain ⟨trace, hafter⟩ := hpublication.eq_of_failures_eq_nil hfailures
  rw [hafter]
  simp

end Session

namespace SessionStep

/-- Makes a client for the record of a manager, and begins to watch. -/
def watchConnect (registry manager : Nat) (settings : ClientSettings) (start : Deployment) :
    Watched :=
  let record := (start.managers.get manager).record
  Watched.goTo registry record.app record.id
    ((Action.connect manager settings (.memory registry)).exec start).2 record ⟨start, none⟩

def watch (registry manager number : Nat) (app id : String) (steps : List SessionStep)
    (watched : Watched) : Watched :=
  steps.foldl (fun watched step => watched.goTo registry app id
    ((step.action registry manager number).exec watched.deployment).2
    (step.recordSent manager watched.deployment)) watched

/-- Watching changes nothing. -/
theorem deployment_watch (registry manager number : Nat) (app id : String)
    (steps : List SessionStep) (watched : Watched) :
    (watch registry manager number app id steps watched).deployment =
      run registry manager number steps watched.deployment := by
  induction steps generalizing watched with
  | nil => rfl
  | cons step rest ih => exact ih _

end SessionStep

namespace Session

theorem watch {registry manager number : Nat} {app id : String} {watched : Watched}
    (hsession : Session registry manager number app id watched.deployment)
    (hreflects : (watched.deployment.registries.get registry).Reflects app id
      (watched.deployment.managers.get manager).record watched.registered)
    {steps : List SessionStep} (hkeeps : ∀ step ∈ steps, step.KeepsIdentity app id)
    {after : Watched}
    (hafter : after = SessionStep.watch registry manager number app id steps watched) :
    Session registry manager number app id after.deployment ∧
      (after.deployment.registries.get registry).Reflects app id
        (after.deployment.managers.get manager).record after.registered := by
  induction steps generalizing watched with
  | nil =>
      subst hafter
      exact ⟨hsession, hreflects⟩
  | cons step rest ih =>
      refine ih (hsession.step step (hkeeps step List.mem_cons_self))
        ((hsession.effect step).reflects hreflects) ?_ hafter
      exact fun later hmem => hkeeps later (List.mem_cons_of_mem _ hmem)

end Session

/-- At every point of a session, the registry has the record of the client at most once, and as it
was in the last registration that was taken, but for the dirty mark and the time of the last update.
If the record is not dirty, it is as it was then. A change of the status while no request fails
leaves it clean. -/
theorem copy_reflects_last_registration {registry manager number : Nat}
    {settings : ClientSettings} {start : Deployment} {app id : String}
    (hpublishers : (start.managers.get manager).publishers = [])
    (happ : (start.managers.get manager).record.app = app)
    (hid : (start.managers.get manager).record.id = id)
    (hnew : (start.registries.get registry).copies app id = [])
    (hregisters : settings.registers = true)
    (hconnect : ((Action.connect manager settings (.memory registry)).exec start).1 = .ok number)
    {steps : List SessionStep} (hkeeps : ∀ step ∈ steps, step.KeepsIdentity app id)
    {watched : Watched} (hwatched : watched = SessionStep.watch registry manager number app id steps
      (SessionStep.watchConnect registry manager settings start)) :
    ((watched.deployment.registries.get registry).copies app id).length ≤ 1 ∧
      (∀ copy ∈ (watched.deployment.registries.get registry).copies app id,
        ∃ last, watched.registered = some last ∧ copy.told = last.told) ∧
      (∀ last, watched.registered = some last →
        (watched.deployment.managers.get manager).record.dirty = false →
          (watched.deployment.managers.get manager).record.told = last.told) ∧
      ∀ status, (watched.deployment.managers.get manager).record.status ≠ status →
        (watched.deployment.registries.get registry).failures = [] →
          (((Action.setStatus manager status).exec watched.deployment).2.managers.get
            manager).record.dirty = false := by
  subst happ hid
  obtain ⟨hurls, rfl, answer, hpublication⟩ :=
    Action.connected_of_exec_connect hregisters (Prod.ext hconnect rfl)
  -- The client is there before it registers for the first time.
  have hconnected := Session.connected hpublishers hurls hnew
  have heffect := Deployment.Effect.of_publication hpublication
    (.kept (Deployment.record_connected _ _ _) (List.Sublist.refl _) rfl) rfl rfl
    hconnected.app_eq hconnected.id_eq
  rw [Deployment.record_connected] at heffect
  have hstart := heffect.reflects (.of_copies_eq_nil hnew _)
  obtain ⟨hsession, hreflects⟩ :=
    (hconnected.publication hpublication).watch hstart hkeeps hwatched
  refine ⟨hreflects.unique, hreflects.copy, hreflects.clean, ?_⟩
  intro status hstatus hfailures
  exact hsession.setStatus_clean hstatus hfailures

/-- A change that was lost and a record that was evicted: the copy is that of the registration after
both. -/
theorem copy_reflects_registration_after_evict :
    let watched := SessionStep.watch 0 0 0 "APP" "member"
      (SessionStep.addMetadata [("zone", "a")] :: SessionStep.lostPush ++
        [.evict "app" "member", .renew])
      (SessionStep.watchConnect 0 0 SessionStep.sampleSettings SessionStep.sampleStart)
    watched.registered.map (fun last => (last.status, last.metadata.get? "zone")) =
        some (.up, some "a") ∧
      ((watched.deployment.registries.get 0).copies "APP" "member").length ≤ 1 ∧
      ∀ copy ∈ (watched.deployment.registries.get 0).copies "APP" "member",
        ∃ last, watched.registered = some last ∧ copy.told = last.told := by
  have hreflects := @copy_reflects_last_registration 0 0 0 SessionStep.sampleSettings
    SessionStep.sampleStart "APP" "member" (by decide) (by decide +kernel) (by decide +kernel)
    (by decide +kernel) (by decide) (by decide +kernel)
    (SessionStep.addMetadata [("zone", "a")] :: SessionStep.lostPush ++
      [.evict "app" "member", .renew])
    (by simp [SessionStep.lostPush, SessionStep.KeepsIdentity]) _ rfl
  exact ⟨by decide +kernel, hreflects.1, hreflects.2.1⟩

end MemberDiscovery
