import MemberDiscovery.Proofs.Deployment.Connection
import MemberDiscovery.Proofs.Deployment.Renewal

/-! # Sessions with a client

A session is what happens around one client that registers: changes of its record, renewals,
lookups, evictions and scheduled failures, one after the other. Every step keeps the registry in the
state that `Registry.Mirrors` describes. So after a successful renewal the registry has the record,
with the status of the last registration that was taken, which is the present status unless the
record is dirty.
-/

namespace MemberDiscovery

/-- What is done around a client, one thing after the other. -/
inductive SessionStep where
  | setStatus (status : InstanceStatus)
  | update (change : Instance → Instance)
  | addMetadata (entries : List (String × String))
  | renew
  | lookup (app : String)
  | evict (app id : String)
  | scheduleFailure (error : ClientError)
  | advance (milliseconds : Int)

namespace SessionStep

/-- Does a step for the client with a number, which keeps the record of a manager in a registry. -/
def action (registry manager number : Nat) : SessionStep → Action Unit
  | .setStatus status => Action.setStatus manager status
  | .update change => Action.updateRecord manager change
  | .addMetadata entries => Action.addMetadata manager entries
  | .renew => do
    match (← get).clients.get number with
    | .registry client => let _ ← Action.renew client
    | .scripted _ => return
  | .lookup app => do let _ ← Action.lookup number app
  | .evict app id => modify (·.intervene (.evict registry app id))
  | .scheduleFailure error => modify (·.intervene (.scheduleFailure registry error))
  | .advance milliseconds => modify (·.advance milliseconds)

def run (registry manager number : Nat) (steps : List SessionStep) (deployment : Deployment) :
    Deployment :=
  steps.foldl (fun deployment step => ((step.action registry manager number).exec deployment).2)
    deployment

/-- The step does not change the application and the id under which a record is registered. -/
def KeepsIdentity (app id : String) : SessionStep → Prop
  | .update change => ∀ record, record.app = app → record.id = id →
      (change record).app = app ∧ (change record).id = id
  | _ => True

end SessionStep

/-- What holds between the steps of a session with the client with a number, which keeps the record
of a manager in a registry. -/
structure Session (registry manager number : Nat) (app id : String) (deployment : Deployment) :
    Prop where
  attached : deployment.Attached registry manager number
  app_eq : (deployment.managers.get manager).record.app = app
  id_eq : (deployment.managers.get manager).record.id = id
  mirrors : (deployment.registries.get registry).Mirrors (deployment.managers.get manager).record

namespace Session

variable {registry manager number : Nat} {app id : String} {deployment after : Deployment}

theorem of_trace (hsession : Session registry manager number app id deployment)
    (trace : List Event) : Session registry manager number app id { deployment with trace } :=
  ⟨hsession.attached.congr rfl rfl, hsession.app_eq, hsession.id_eq, hsession.mirrors⟩

theorem setRegistry (hsession : Session registry manager number app id deployment)
    {state : Registry} (hmirrors : state.Mirrors (deployment.managers.get manager).record) :
    Session registry manager number app id (deployment.setRegistry registry state) where
  attached := hsession.attached.congr rfl rfl
  app_eq := hsession.app_eq
  id_eq := hsession.id_eq
  mirrors := by simpa using hmirrors

theorem setManager (hsession : Session registry manager number app id deployment)
    {state : InstanceManager}
    (hlisteners : state.listeners = (deployment.managers.get manager).listeners)
    (happ : state.record.app = (deployment.managers.get manager).record.app)
    (hid : state.record.id = (deployment.managers.get manager).record.id)
    (hdirty : state.record.dirty = true) :
    Session registry manager number app id (deployment.setManager manager state) where
  attached := hsession.attached.congr rfl (by simpa using hlisteners)
  app_eq := by simpa [happ] using hsession.app_eq
  id_eq := by simpa [hid] using hsession.id_eq
  mirrors := by
    simpa using hsession.mirrors.of_dirty happ hid hdirty

theorem published (hsession : Session registry manager number app id deployment) :
    Session registry manager number app id (deployment.published registry manager) where
  attached := hsession.attached.publication (.taken deployment.trace)
  app_eq := by simpa using hsession.app_eq
  id_eq := by simpa [Instance.id] using hsession.id_eq
  mirrors := by simpa using hsession.mirrors.accept_register deployment.clock

theorem refused (hsession : Session registry manager number app id deployment)
    (left : List ClientError) :
    Session registry manager number app id (deployment.refused registry left) :=
  hsession.setRegistry (hsession.mirrors.congr (Registry.copies_congr rfl)
    (Registry.registeredStatus?_congr rfl))

theorem publication (hsession : Session registry manager number app id deployment)
    {answer : Except ClientError Unit}
    (hpublication : Deployment.Publication registry manager deployment answer after) :
    Session registry manager number app id after := by
  cases hpublication with
  | taken trace => exact hsession.published.of_trace trace
  | refused error left trace => exact (hsession.refused left).of_trace trace

theorem renewed (hsession : Session registry manager number app id deployment) :
    Session registry manager number app id (deployment.renewed registry manager) := by
  apply hsession.setRegistry
  apply hsession.mirrors.congr
  · exact Registry.copies_congr (Registry.accept_heartbeat_applications _ _ _)
  · funext app id
    exact Registry.registeredStatus?_accept_heartbeat _ _ _ app id

theorem renewal (hsession : Session registry manager number app id deployment)
    {answer : Except ClientError Unit}
    (hrenewal : Deployment.Renewal registry manager deployment answer after) :
    Session registry manager number app id after := by
  cases hrenewal with
  | refused error left trace => exact (hsession.refused left).of_trace trace
  | known trace => exact hsession.renewed.of_trace trace
  | lost answer after hlost hpublication => exact hsession.renewed.publication hpublication

/-- A client that begins its registration for a record that the registry does not have yet. -/
theorem connected {settings : ClientSettings} {start : Deployment}
    (hpublishers : (start.managers.get manager).publishers = [])
    (hurls : settings.orderedUrls ≠ [])
    (hnew : (start.registries.get registry).copies (start.managers.get manager).record.app
      (start.managers.get manager).record.id = []) :
    Session registry manager start.clients.size (start.managers.get manager).record.app
      (start.managers.get manager).record.id
      (start.connected (.ofMemory manager settings registry
        (start.managers.get manager).record)) where
  attached := .connected registry _
    (InstanceManager.clientsShareId_of_publishers_eq_nil hpublishers) hurls
  app_eq := by simp [Deployment.connected, RegistryClient.ofMemory, RegistryClient.fresh,
    InstanceManager.listen]
  id_eq := by simp [Deployment.connected, RegistryClient.ofMemory, RegistryClient.fresh,
    InstanceManager.listen]
  mirrors := by
    left
    simpa [Deployment.connected, RegistryClient.ofMemory, RegistryClient.fresh,
      InstanceManager.listen] using hnew

theorem setStatus (hsession : Session registry manager number app id deployment)
    (status : InstanceStatus) :
    Session registry manager number app id
      ((Action.setStatus manager status).exec deployment).2 := by
  by_cases hstatus : (deployment.managers.get manager).record.status = status
  · rw [Action.exec_setStatus_of_eq hstatus]
    exact hsession
  · have hrestated : Session registry manager number app id
        (deployment.restated manager status) := by
      apply hsession.setManager <;>
        simp [InstanceManager.setStatus, Instance.setStatus, hstatus, Instance.markDirty,
          Instance.id]
    obtain ⟨client, hclient, hmanager, hserved, hlive⟩ := hsession.attached.client
    obtain ⟨answer, hpublication⟩ := Action.exec_setStatus_published hsession.attached.publishers
      hclient hserved hlive hstatus
    rw [hmanager] at hpublication
    exact hrestated.publication hpublication

theorem lookup (hsession : Session registry manager number app id deployment) (looked : String) :
    Session registry manager number app id ((Action.lookup number looked).exec deployment).2 := by
  obtain ⟨client, hclient, -, hserved, hlive⟩ := hsession.attached.client
  cases hfetches : client.settings.fetches with
  | false =>
      rw [Action.exec_lookup_of_fetches_eq_false hclient hlive hfetches]
      exact hsession
  | true =>
      obtain ⟨answer, after, hexec, houtcome⟩ :=
        Action.exec_lookup_of_servedBy hclient hserved hlive hfetches looked
      rw [hexec]
      cases houtcome with
      | refused error left => exact hsession.refused left
      | taken =>
          apply hsession.setRegistry
          apply hsession.mirrors.congr
          · exact Registry.copies_congr (Registry.accept_lookup_applications _ _ _)
          · funext app id
            exact Registry.registeredStatus?_accept_lookup _ _ _ app id

/-- Every step of a session leaves a session. -/
theorem step (hsession : Session registry manager number app id deployment) (step : SessionStep)
    (hkeeps : step.KeepsIdentity app id) :
    Session registry manager number app id
      ((step.action registry manager number).exec deployment).2 := by
  cases step with
  | setStatus status => exact hsession.setStatus status
  | update change =>
      obtain ⟨happ, hid⟩ := hkeeps _ hsession.app_eq hsession.id_eq
      refine hsession.setManager rfl ?_ ?_ rfl
      · exact happ.trans hsession.app_eq.symm
      · exact hid.trans hsession.id_eq.symm
  | addMetadata entries => exact hsession.setManager rfl rfl rfl rfl
  | renew =>
      obtain ⟨client, hclient, hmanager, hserved, hlive⟩ := hsession.attached.client
      have hrenewal := Action.exec_renew hserved hlive deployment
      rw [hmanager] at hrenewal
      simp only [SessionStep.action, Action.exec_bind, Action.exec_get, hclient, Action.exec_pure]
      exact hsession.renewal hrenewal
  | lookup looked => exact hsession.lookup looked
  | evict evicted removed => exact hsession.setRegistry (hsession.mirrors.evict evicted removed)
  | scheduleFailure error =>
      exact hsession.setRegistry (hsession.mirrors.congr (Registry.copies_congr rfl)
        (Registry.registeredStatus?_congr rfl))
  | advance milliseconds =>
      exact ⟨hsession.attached.congr rfl rfl, hsession.app_eq, hsession.id_eq, hsession.mirrors⟩

theorem run (hsession : Session registry manager number app id deployment)
    (steps : List SessionStep) (hkeeps : ∀ step ∈ steps, step.KeepsIdentity app id) :
    Session registry manager number app id
      (SessionStep.run registry manager number steps deployment) := by
  induction steps generalizing deployment with
  | nil => exact hsession
  | cons step rest ih =>
      exact ih (hsession.step step (hkeeps step List.mem_cons_self)) fun later hmem =>
        hkeeps later (List.mem_cons_of_mem _ hmem)

/-- After a renewal that succeeded there is a copy of the record. If there was none before, the
record was sent and is not dirty. -/
theorem copies_of_renewal (hsession : Session registry manager number app id deployment)
    (hrenewal : Deployment.Renewal registry manager deployment (.ok ()) after) :
    (after.registries.get registry).copies app id ≠ [] ∧
      ((deployment.registries.get registry).copies app id = [] →
        (after.managers.get manager).record.dirty = false) := by
  have hknows := Registry.knows_iff (deployment.registries.get registry)
    (deployment.managers.get manager).record
  rw [hsession.app_eq, hsession.id_eq] at hknows
  cases hrenewal with
  | known trace hknown =>
      -- A heartbeat changes nothing, so the copy is the one that was there.
      have hcopies := hknows.mp hknown
      refine ⟨?_, fun hnone => absurd hnone hcopies⟩
      simpa [Deployment.renewed, Registry.copies_congr
        (Registry.accept_heartbeat_applications _ _ _)] using hcopies
  | lost _ _ hlost hpublication =>
      -- The whole record was sent, since only then the renewal succeeds.
      have hsent := hsession.renewed
      cases hpublication with
      | taken trace =>
          constructor
          · rw [← hsent.app_eq, ← hsent.id_eq]
            simp [Registry.copies_congr (Registry.accept_register _ _ _), Registry.copies_store,
              Registry.stored, Instance.id]
          · intro _
            simp

end Session

namespace Registry

/-- The one record that a registry with a copy of a record has of it. -/
theorem Mirrors.exists_instance? {registry : Registry} {record : Instance}
    (hmirrors : registry.Mirrors record) (hupper : Text.upper record.app = record.app)
    (hcopies : registry.copies record.app record.id ≠ []) :
    ∃ copy, registry.instance? record.app record.id = some copy ∧
      registry.registeredStatus? record.app record.id = some copy.status ∧
      (record.dirty = false → copy.status = record.status) := by
  obtain hnone | ⟨copy, hcopy, hregistered, hclean⟩ := hmirrors
  · exact absurd hnone hcopies
  · refine ⟨copy, ?_, hregistered, hclean⟩
    rw [instance?_eq, hupper, hcopy]
    rfl

end Registry

/-- Whatever happened around a client since it was made, after a renewal that succeeds the registry
has its record. The status there is the one that was registered last. It is the present status if
the record is not dirty, and in particular if the registry had lost the record before. -/
theorem renewal_shows_registered_status {registry manager number : Nat}
    {settings : ClientSettings} {start after : Deployment}
    (hpublishers : (start.managers.get manager).publishers = [])
    (hupper : Text.upper (start.managers.get manager).record.app =
      (start.managers.get manager).record.app)
    (hnew : (start.registries.get registry).instance? (start.managers.get manager).record.app
      (start.managers.get manager).record.id = none)
    (hregisters : settings.registers = true)
    (hconnect : ((Action.connect manager settings (.memory registry)).exec start).1 = .ok number)
    {steps : List SessionStep}
    (hkeeps : ∀ step ∈ steps, step.KeepsIdentity (start.managers.get manager).record.app
      (start.managers.get manager).record.id)
    {run : Deployment} (hrun : run = SessionStep.run registry manager number steps
      ((Action.connect manager settings (.memory registry)).exec start).2)
    {client : RegistryClient} (hclient : run.clients.get number = .registry client)
    (hrenew : (Action.renew client).exec run = (.ok (), after)) :
    ∃ copy,
      (after.registries.get registry).instance? (after.managers.get manager).record.app
        (after.managers.get manager).record.id = some copy ∧
      (after.registries.get registry).registeredStatus? (after.managers.get manager).record.app
        (after.managers.get manager).record.id = some copy.status ∧
      ((after.managers.get manager).record.dirty = false →
        copy.status = (after.managers.get manager).record.status) ∧
      ((run.registries.get registry).instance? (run.managers.get manager).record.app
        (run.managers.get manager).record.id = none →
        copy.status = (after.managers.get manager).record.status) := by
  obtain ⟨hurls, rfl, answer, hpublication⟩ :=
    Action.connected_of_exec_connect hregisters (Prod.ext hconnect rfl)
  rw [Registry.instance?_eq, hupper, List.head?_eq_none_iff] at hnew
  -- The first registration may have failed; a session does not need it.
  have hsession := ((Session.connected hpublishers hurls hnew).publication hpublication).run
    steps hkeeps
  rw [← hrun] at hsession
  obtain ⟨found, hfound, hmanager, hserved, hlive⟩ := hsession.attached.client
  rw [hfound] at hclient
  cases hclient
  have hrenewal := Action.exec_renew hserved hlive run
  rw [hmanager, hrenew] at hrenewal
  obtain ⟨hcopies, hsent⟩ := hsession.copies_of_renewal hrenewal
  have hafter := hsession.renewal hrenewal
  rw [← hafter.app_eq, ← hafter.id_eq] at hcopies
  obtain ⟨copy, hcopy, hregistered, hclean⟩ :=
    hafter.mirrors.exists_instance? (by rw [hafter.app_eq, hupper]) hcopies
  refine ⟨copy, hcopy, hregistered, hclean, fun hlost => hclean (hsent ?_)⟩
  rw [hsession.app_eq, hsession.id_eq, Registry.instance?_eq, hupper,
    List.head?_eq_none_iff] at hlost
  exact hlost

namespace SessionStep

/-- A process with an empty registry and a record that is starting. -/
def sampleStart : Deployment :=
  (((Deployment.start 0 ⟨"host", "10.0.0.1"⟩ fun _ => "").addRegistry.2.addManager
    (.ofRecord default { Instance.new "app" "member" 0 with status := .starting })).2)

def sampleSettings : ClientSettings :=
  ClientSettings.default.addUrls ClientSettings.defaultZone ["memory://registry"]

/-- The process after its client was made and steps were done. -/
def sampleRun (steps : List SessionStep) : Deployment :=
  run 0 0 0 steps ((Action.connect 0 sampleSettings (.memory 0)).exec sampleStart).2

def sampleClient : RegistryClient :=
  .ofMemory 0 sampleSettings 0 (sampleStart.managers.get 0).record

def sampleRenewal (steps : List SessionStep) : Except ClientError Unit × Deployment :=
  (Action.renew sampleClient).exec (sampleRun steps)

/-- A change of the status that does not reach the registry. -/
def lostPush : List SessionStep := [.scheduleFailure .noAnswer, .setStatus .up]

end SessionStep

/-- A renewal does not repair a lost push as long as the registry has the record: it succeeds, and
the old status stays. -/
theorem renewal_leaves_lost_push :
    (SessionStep.sampleRenewal SessionStep.lostPush).1 = .ok () ∧
      (((SessionStep.sampleRenewal SessionStep.lostPush).2.registries.get 0).instance? "APP"
        "member").map (·.status) = some .starting ∧
      ((SessionStep.sampleRenewal SessionStep.lostPush).2.managers.get 0).record.status = .up := by
  decide +kernel

/-- Once the registry has lost the record, the renewal sends it with the status that was not
pushed. -/
theorem renewal_repairs_lost_push_after_evict :
    ∃ copy, ((SessionStep.sampleRenewal
        (SessionStep.lostPush ++ [.evict "app" "member"])).2.registries.get 0).instance? "APP"
          "member" = some copy ∧ copy.status = .up := by
  have hsent := @renewal_shows_registered_status 0 0 0 SessionStep.sampleSettings
    SessionStep.sampleStart _ (by decide) (by decide +kernel) (by decide +kernel) (by decide)
    (by decide +kernel) (SessionStep.lostPush ++ [.evict "app" "member"])
    (by simp [SessionStep.lostPush, SessionStep.KeepsIdentity]) _ rfl
    SessionStep.sampleClient rfl (Prod.ext (by decide +kernel) rfl)
  obtain ⟨copy, hcopy, -, -, hlost⟩ := hsent
  exact ⟨copy, hcopy, hlost (by decide +kernel)⟩

end MemberDiscovery
