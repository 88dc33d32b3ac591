import MemberDiscovery.Proofs.Deployment.Heartbeats
import MemberDiscovery.Proofs.Deployment.Soundness

/-! # After the end of a client

A client that has ended stays that way, whatever is done with it and its record: it has no thread
for heartbeats and makes no request any more, and whoever asks it is told that it has ended
(`Deployment.Ended.silenced`). So the round in which it takes its record back is the last that is
seen of it (`Deployment.Sound.lastEnd`), whatever its thread was doing meanwhile.
-/

namespace MemberDiscovery

/-- The round of requests in which a client takes a record back. -/
def RegistryClient.takeBack (client : RegistryClient) (record : Instance) :
    Action (Except ClientError Unit) :=
  failover (Action.submit (.cancel record.app record.id)) client.transports

/-- Where no record is held twice, one that was taken back is gone. -/
theorem RegistryClient.copies_takeBack {client : RegistryClient} {registry : Nat}
    (hserved : client.ServedBy registry) {deployment : Deployment} {record : Instance}
    (hunique : ((deployment.registries.get registry).copies record.app record.id).length ≤ 1)
    (happ : Text.upper record.app = record.app)
    (haccepted : ((client.takeBack record).exec deployment).1 = .ok ()) :
    (((client.takeBack record).exec deployment).2.registries.get registry).copies record.app
      record.id = [] := by
  obtain ⟨answer, after, hexec, houtcome⟩ := Action.exec_failover_of_servedBy hserved
    (.cancel record.app record.id) deployment
  rw [takeBack, hexec] at haccepted ⊢
  cases houtcome with
  | refused error left => cases haccepted
  | taken =>
      simp only [Deployment.registries_setRegistry, Slots.get_set, if_pos]
      rw [Registry.copies_congr (Registry.accept_cancel_applications _ _ _ _),
        Registry.copies_evict, if_pos ⟨happ.symm, rfl⟩]
      exact List.eq_nil_of_length_eq_zero (by rw [List.length_tail]; omega)

namespace Deployment

variable {manager number : Nat} {deployment after : Deployment}

/-- The client with a number has ended, its thread has stopped, and no client listens to its
record. -/
structure Ended (manager number : Nat) (deployment : Deployment) : Prop where
  client : ∃ client, deployment.clients.get number = .registry client ∧
    client.manager = manager ∧ client.isShutDown = true ∧ client.heartbeat = none
  publishers : (deployment.managers.get manager).publishers = []

namespace Ended

theorem congr (hended : deployment.Ended manager number)
    (hclients : after.clients = deployment.clients)
    (hlisteners : (after.managers.get manager).listeners =
      (deployment.managers.get manager).listeners) : after.Ended manager number where
  client := by rw [hclients]; exact hended.client
  publishers := by
    rw [InstanceManager.publishers, hlisteners]
    exact hended.publishers

theorem lasting : Action.Lasting (Ended manager number) where
  network _ _ _ hended := hended.congr rfl rfl
  registry _ _ _ hended := hended.congr rfl rfl
  manager _ other state hlisteners _ _ hended := by
    refine hended.congr rfl ?_
    simp only [managers_setManager, Slots.get_set]
    split
    next heq => rw [hlisteners, heq]
    next => rfl

/-- Ending a client that has ended does nothing. -/
theorem exec_shutDown (hended : deployment.Ended manager number) :
    (Action.shutDown number).exec deployment = ((), deployment) := by
  obtain ⟨client, hclient, -, hshutDown, -⟩ := hended.client
  exact Action.exec_shutDown_of_isShutDown hclient hshutDown

theorem exec_lookup (hended : deployment.Ended manager number) (app : String) :
    (Action.lookup number app).exec deployment = (.error .shutDown, deployment) := by
  obtain ⟨client, hclient, -, hshutDown, -⟩ := hended.client
  exact Action.exec_lookup_of_isShutDown hclient hshutDown app

/-- No heartbeat comes from a client that has ended, however long is waited for one. -/
theorem exec_beat (hended : deployment.Ended manager number) (waited : Nat) :
    (Action.beat number waited).exec deployment = ((), deployment) := by
  obtain ⟨client, hclient, -, -, hthread⟩ := hended.client
  exact Action.exec_beat_of_heartbeat_eq_none hclient hthread waited

/-- A client has ended once its thread was stopped. -/
theorem of_stop {client : RegistryClient}
    (hpublishers : (deployment.managers.get client.manager).publishers = []) :
    ((Action.stopAndUnregister number client).exec deployment).2.Ended client.manager number := by
  rw [Action.exec_stopAndUnregister]
  refine Action.Keeps.ite (lasting.unregister client) (.pure _) _ ⟨?_, hpublishers⟩
  exact ⟨client.ended, by simp, rfl, rfl, rfl⟩

end Ended

/-- Where a client is closed, no client listens to its record. -/
theorem Sound.publishers_closed (hsound : deployment.Sound) (number : Nat)
    (client : RegistryClient) :
    ((deployment.closed number client).managers.get client.manager).publishers = [] := by
  have hunlistened : ((deployment.managers.get client.manager).unlisten
      Action.clientListenerId).publishers = [] := by
    refine List.filterMap_eq_nil_iff.mpr ?_
    rintro ⟨id, listener⟩ hmem
    cases listener with
    | observer tag => rfl
    | client other =>
        have hget := Table.mem_entries_iff.mp hmem
        simp only [InstanceManager.unlisten, Table.get?_erase] at hget
        split at hget
        next => cases hget
        next hid => exact absurd (hsound.listening _ id other hget).1 hid
  simpa [closed] using hunlistened

namespace Ended

/-- Whatever its thread does while it ends, in the end the client has ended. -/
theorem of_endDuring (hsound : deployment.Sound) (client : RegistryClient) (waits : List Nat) :
    ((client.endDuring number waits).exec deployment).2.Ended client.manager number := by
  have hbeats : Action.Keeps (fun after : Deployment =>
      (after.managers.get client.manager).publishers = [])
        (waits.forM (Action.beat number)) := by
    refine .forM ?_
    intro waited before hbefore
    obtain ⟨-, hlisteners⟩ := Action.own_beat client.manager number waited before
    rw [InstanceManager.publishers, hlisteners]
    exact hbefore
  exact of_stop (hbeats _ (hsound.publishers_closed number client))

theorem of_shutDown (hsound : deployment.Sound) {client : RegistryClient}
    (hclient : deployment.clients.get number = .registry client)
    (hlive : client.isShutDown = false) :
    ((Action.shutDown number).exec deployment).2.Ended client.manager number := by
  rw [Action.exec_shutDown_of_live hclient hlive, ← setClient_closed,
    ← Action.exec_stopAndUnregister]
  exact of_stop (hsound.publishers_closed number client)

end Ended

end Deployment

/-- What may be done with a client and its record, and what its thread may do. -/
inductive ClientStep where
  | setStatus (status : InstanceStatus)
  | update (change : Instance → Instance)
  | addMetadata (entries : List (String × String))
  | renew
  | beat (waited : Nat)
  | lookup (app : String)
  | shutDown
  | release

namespace ClientStep

def error? {α : Type} : Except ClientError α → Option ClientError
  | .ok _ => none
  | .error error => some error

/-- Does a step with the client with a number and the record of a manager. The answer is the error
that the caller is told. -/
def action (manager number : Nat) : ClientStep → Action (Option ClientError)
  | .setStatus status => do Action.setStatus manager status; return none
  | .update change => do Action.updateRecord manager change; return none
  | .addMetadata entries => do Action.addMetadata manager entries; return none
  | .renew => do
    match (← get).clients.get number with
    | .registry client => return error? (← Action.renew client)
    | .scripted _ => return none
  | .beat waited => do Action.beat number waited; return none
  | .lookup app => return error? (← Action.lookup number app)
  | .shutDown => do Action.shutDown number; return none
  | .release => do Action.release number; return none

/-- What the caller is told once the client has ended. -/
def refusal : ClientStep → Option ClientError
  | .renew | .lookup _ => some .shutDown
  | _ => none

/-- The step is taken with or by the client, not with the record. -/
def OfClient : ClientStep → Prop
  | .setStatus _ | .update _ | .addMetadata _ => False
  | .renew | .beat _ | .lookup _ | .shutDown | .release => True

end ClientStep

/-- Whatever is done with a client and its record, and whatever its thread is left to do, others see
nothing of it, and whoever asks the client is told that it has ended. -/
def Deployment.Silenced (manager number : Nat) (deployment : Deployment) : Prop :=
  ∀ steps : List ClientStep,
    ((steps.mapM (ClientStep.action manager number)).exec deployment).1 =
        steps.map ClientStep.refusal ∧
      ((steps.mapM (ClientStep.action manager number)).exec deployment).2.outside =
        deployment.outside

namespace Deployment.Ended

variable {manager number : Nat} {deployment : Deployment}

/-- A client that has ended does nothing but refuse. -/
theorem exec_action (hended : deployment.Ended manager number) {step : ClientStep}
    (hstep : step.OfClient) :
    (step.action manager number).exec deployment = (step.refusal, deployment) := by
  obtain ⟨client, hclient, -, hshutDown, -⟩ := hended.client
  cases step with
  | setStatus | update | addMetadata => exact hstep.elim
  | renew =>
      rw [ClientStep.action, Action.exec_bind, Action.exec_get]
      dsimp only
      rw [hclient]
      dsimp only
      rw [Action.renew, if_pos hshutDown]
      rfl
  | beat waited =>
      rw [ClientStep.action, Action.exec_bind, hended.exec_beat]
      rfl
  | lookup app =>
      rw [ClientStep.action, Action.exec_bind, hended.exec_lookup]
      rfl
  | shutDown =>
      rw [ClientStep.action, Action.exec_bind, hended.exec_shutDown]
      rfl
  | release =>
      rw [ClientStep.action, Action.exec_bind, Action.exec_release hclient,
        Action.exec_endRegistry_of_isShutDown hshutDown]
      rfl

/-- What is done with a client that has ended is not seen by others, and the client stays ended. -/
theorem step (hended : deployment.Ended manager number) (step : ClientStep) :
    ((step.action manager number).exec deployment).1 = step.refusal ∧
      ((step.action manager number).exec deployment).2.outside = deployment.outside ∧
      ((step.action manager number).exec deployment).2.Ended manager number := by
  by_cases hclient : step.OfClient
  · rw [hended.exec_action hclient]
    exact ⟨rfl, rfl, hended⟩
  cases step with
  | setStatus status =>
      refine ⟨rfl, ?_, ?_⟩
      · exact Action.outside_setStatus_of_publishers_eq_nil hended.publishers status
      · exact lasting.setStatus manager status deployment hended
  | update change => exact ⟨rfl, rfl, hended.congr rfl (by simp [ClientStep.action,
      Action.updateRecord, InstanceManager.update])⟩
  | addMetadata entries => exact ⟨rfl, rfl, hended.congr rfl (by simp [ClientStep.action,
      Action.addMetadata, InstanceManager.addMetadata, InstanceManager.update])⟩
  | renew | beat | lookup | shutDown | release => exact absurd trivial hclient

theorem silenced (hended : deployment.Ended manager number) :
    deployment.Silenced manager number := by
  intro steps
  induction steps generalizing deployment with
  | nil => exact ⟨rfl, rfl⟩
  | cons step rest ih =>
      obtain ⟨hanswer, houtside, hafter⟩ := hended.step step
      obtain ⟨hanswers, hrest⟩ := ih hafter
      rw [List.mapM_cons, Action.exec_bind, Action.exec_bind, Action.exec_pure, hanswer, hanswers]
      exact ⟨rfl, hrest.trans houtside⟩

end Deployment.Ended

namespace Deployment

/-- What others see of the end of a client, and that it is the last that they see of the client. -/
structure LastEnd (number : Nat) (client : RegistryClient) (before : Deployment) : Prop where
  /-- Until now, a client that registers has a thread for heartbeats. -/
  thread : client.heartbeat.isSome = client.settings.registers
  farewell : ((Action.shutDown number).exec before).2.outside =
    if client.settings.registers then
      ((client.takeBack (before.managers.get client.manager).record).exec before).2.outside
    else before.outside
  /-- A registry in memory that takes the record back has no copy of it any longer. -/
  gone : ∀ registry, client.settings.registers = true → client.ServedBy registry →
    let record := (before.managers.get client.manager).record
    Text.upper record.app = record.app → ((client.takeBack record).exec before).1 = .ok () →
      (((Action.shutDown number).exec before).2.registries.get registry).copies record.app
        record.id = []
  silent : ((Action.shutDown number).exec before).2.Silenced client.manager number
  /-- Heartbeats that are due while the thread is waited for are seen before the record is taken
  back, and none is seen afterwards. -/
  overtaken : ∀ waits : List Nat,
    ((client.endDuring number waits).exec before).2.outside =
        ((do
          waits.forM (Action.beat number)
          Action.shutDown number).exec before).2.outside ∧
      ((client.endDuring number waits).exec before).2.Silenced client.manager number

theorem Sound.lastEnd {number : Nat} {client : RegistryClient} {before : Deployment}
    (hsound : before.Sound)
    (hunique : ∀ registry app id, ((before.registries.get registry).copies app id).length ≤ 1)
    (hclient : before.clients.get number = .registry client)
    (hlive : client.isShutDown = false)
    (hthread : client.heartbeat.isSome = client.settings.registers) :
    LastEnd number client before where
  thread := hthread
  farewell := Action.outside_shutDown hclient hlive
  gone := by
    intro registry hregisters hserved record happ haccepted
    have hseen := Action.outside_shutDown hclient hlive
    rw [if_pos hregisters] at hseen
    rw [(outside_eq_iff.mp hseen).2.1]
    exact RegistryClient.copies_takeBack hserved (hunique registry _ _) happ haccepted
  silent := (Ended.of_shutDown hsound hclient hlive).silenced
  overtaken waits := ⟨RegistryClient.outside_endDuring hclient hlive waits,
    (Ended.of_endDuring hsound client waits).silenced⟩

end Deployment

end MemberDiscovery
