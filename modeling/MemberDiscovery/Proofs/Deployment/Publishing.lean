import MemberDiscovery.Proofs.Deployment.Requests

/-! # What a publication does

A client publishes by sending the whole record of its manager. `Deployment.published` is the
deployment after the registry took the record, and `Deployment.refused` the one after it did not. A
change of a status is told to the listeners of the record; of these only clients publish, and
`InstanceManager.publishers` lists them.
-/

namespace MemberDiscovery

/-- What was changed up to the last change is not dirty any more. -/
theorem Instance.clearDirty_lastDirty (record : Instance) :
    record.clearDirty record.lastDirty = { record with dirty := false } := by
  rw [clearDirty, if_pos (Int64.le_refl _)]

def Listener.client? : Listener → Option Nat
  | .observer _ => none
  | .client number => some number

/-- The clients that are told about the status of a record, and publish it. -/
def InstanceManager.publishers (manager : InstanceManager) : List Nat :=
  manager.listeners.toList.filterMap fun entry => entry.2.client?

namespace InstanceManager

theorem setStatus_of_eq {manager : InstanceManager} {status : InstanceStatus}
    (hstatus : manager.record.status = status) (now : Timestamp) :
    manager.setStatus now status = (none, manager) := by
  simp [setStatus, Instance.setStatus, hstatus]

variable (manager : InstanceManager) (now : Timestamp) (status : InstanceStatus)

theorem publishers_ofConfig (config : InstanceConfig) : (ofConfig config now).publishers = [] := rfl

@[simp] theorem setStatus_config : (manager.setStatus now status).2.config = manager.config := rfl

@[simp] theorem setStatus_listeners :
    (manager.setStatus now status).2.listeners = manager.listeners := rfl

/-- Setting the status changes nothing else but when the record was changed last. -/
theorem setStatus_view {α : Type} (view : Instance → α)
    (hview : ∀ record : Instance, view (.markDirty now { record with status }) = view record) :
    view (manager.setStatus now status).2.record = view manager.record := by
  by_cases hstatus : manager.record.status = status
  · rw [setStatus_of_eq hstatus]
  · have hrecord : (manager.setStatus now status).2.record =
        .markDirty now { manager.record with status } := by
      simp [setStatus, Instance.setStatus, hstatus]
    rw [hrecord, hview]

@[simp] theorem setStatus_app :
    (manager.setStatus now status).2.record.app = manager.record.app :=
  setStatus_view manager now status Instance.app fun _ => rfl

@[simp] theorem setStatus_id :
    (manager.setStatus now status).2.record.id = manager.record.id :=
  setStatus_view manager now status Instance.id fun _ => rfl

@[simp] theorem setStatus_metadata :
    (manager.setStatus now status).2.record.metadata = manager.record.metadata :=
  setStatus_view manager now status Instance.metadata fun _ => rfl

@[simp] theorem setStatus_ipAddress :
    (manager.setStatus now status).2.record.ipAddress = manager.record.ipAddress :=
  setStatus_view manager now status Instance.ipAddress fun _ => rfl

@[simp] theorem setStatus_port :
    (manager.setStatus now status).2.record.port = manager.record.port :=
  setStatus_view manager now status Instance.port fun _ => rfl

@[simp] theorem setStatus_status : (manager.setStatus now status).2.record.status = status := by
  by_cases hstatus : manager.record.status = status
  · rw [setStatus_of_eq hstatus, hstatus]
  · simp [setStatus, Instance.setStatus, Instance.markDirty, hstatus]

end InstanceManager

namespace Deployment

/-- The deployment after a registry took the record of a manager. -/
def published (registry manager : Nat) (deployment : Deployment) : Deployment :=
  { deployment with
    registries := deployment.registries.set registry
      ((deployment.registries.get registry).accept deployment.clock
        (.register (deployment.managers.get manager).record)).2
    managers := deployment.managers.set manager
      ((deployment.managers.get manager).clearDirty
        (deployment.managers.get manager).record.lastDirty) }

/-- The record is not dirty any more. -/
@[simp] theorem manager_published (registry manager : Nat) (deployment : Deployment) :
    (deployment.published registry manager).managers.get manager =
      { deployment.managers.get manager with
        record := { (deployment.managers.get manager).record with dirty := false } } := by
  simp [published, InstanceManager.clearDirty, Instance.clearDirty_lastDirty]

@[simp] theorem registry_published (registry manager : Nat) (deployment : Deployment) :
    (deployment.published registry manager).registries.get registry =
      ((deployment.registries.get registry).accept deployment.clock
        (.register (deployment.managers.get manager).record)).2 := by
  simp [published]

theorem members_published {registry manager : Nat} {app : String} {deployment : Deployment}
    (happ : (deployment.managers.get manager).record.app = app) :
    ((deployment.published registry manager).registries.get registry).members app =
      Application.addTo (Registry.stored deployment.clock (deployment.managers.get manager).record)
        ((deployment.registries.get registry).members app) := by
  rw [registry_published, Registry.members_congr (Registry.accept_register _ _ _),
    Registry.members_store,
    if_pos (by exact happ.symm)]

/-- The deployment after a registry refused a request and has so many failures left. -/
def refused (registry : Nat) (left : List ClientError) (deployment : Deployment) : Deployment :=
  deployment.setRegistry registry { deployment.registries.get registry with failures := left }

/-- The deployment after the status of a record was set. -/
def restated (manager : Nat) (status : InstanceStatus) (deployment : Deployment) : Deployment :=
  deployment.setManager manager
    ((deployment.managers.get manager).setStatus deployment.clock status).2

theorem restated_of_eq {manager : Nat} {status : InstanceStatus} {deployment : Deployment}
    (hstatus : (deployment.managers.get manager).record.status = status) :
    deployment.restated manager status = deployment := by
  rw [restated, InstanceManager.setStatus_of_eq hstatus, setManager_get]

/-- What may become of a publication of the record of a manager. -/
inductive Publication (registry manager : Nat) (before : Deployment) :
    Except ClientError Unit → Deployment → Prop where
  | taken (trace : List Event) : Publication registry manager before (.ok ())
      { before.published registry manager with trace }
  | refused (error : ClientError) (left : List ClientError) (trace : List Event)
      (hleft : left <:+ (before.registries.get registry).failures)
      (hless : left.length < (before.registries.get registry).failures.length) :
      Publication registry manager before (.error error)
        { before.refused registry left with trace }

/-- What was noted before and after makes no difference to a publication. -/
theorem Publication.of_trace {registry manager : Nat} {before after : Deployment}
    {answer : Except ClientError Unit} {trace : List Event}
    (hpublication : Publication registry manager { before with trace } answer after)
    (later : List Event) :
    Publication registry manager before answer { after with trace := later } := by
  cases hpublication with
  | taken => exact .taken later
  | refused error left _ hleft hless => exact .refused error left later hleft hless

/-- A registry without scheduled failures takes the record. -/
theorem Publication.eq_of_failures_eq_nil {registry manager : Nat} {before after : Deployment}
    {answer : Except ClientError Unit}
    (hpublication : Publication registry manager before answer after)
    (hfailures : (before.registries.get registry).failures = []) :
    ∃ trace, after = { before.published registry manager with trace } := by
  cases hpublication with
  | taken trace => exact ⟨trace, rfl⟩
  | refused error left trace hleft hless => simp [hfailures] at hless

/-- Of the record at most the dirty mark changes. -/
theorem Publication.status_eq {registry manager : Nat} {before after : Deployment}
    {answer : Except ClientError Unit}
    (hpublication : Publication registry manager before answer after) :
    (after.managers.get manager).record.status = (before.managers.get manager).record.status := by
  cases hpublication with
  | taken trace =>
      simp
  | refused error left trace => rfl

theorem Publication.registries_get_of_ne {registry manager other : Nat} {before after : Deployment}
    {answer : Except ClientError Unit}
    (hpublication : Publication registry manager before answer after) (hother : other ≠ registry) :
    after.registries.get other = before.registries.get other := by
  cases hpublication with
  | taken trace => simp [published, hother]
  | refused error left trace => simp [Deployment.refused, hother]

end Deployment

namespace Action

variable {registry : Nat}

@[simp] theorem exec_getManager (number : Nat) (deployment : Deployment) :
    (getManager number).exec deployment = (deployment.managers.get number, deployment) := rfl

@[simp] theorem exec_modifyManager (number : Nat)
    (change : Timestamp → InstanceManager → InstanceManager) (deployment : Deployment) :
    (modifyManager number change).exec deployment =
      ((), deployment.setManager number
        (change deployment.clock (deployment.managers.get number))) := rfl

/-- Sending a record is a publication. -/
theorem exec_register {client : RegistryClient} (hserved : client.ServedBy registry)
    (deployment : Deployment) :
    Deployment.Publication registry client.manager deployment
      ((register client).exec deployment).1 ((register client).exec deployment).2 := by
  unfold register
  simp only [exec_bind, exec_getManager, exec_inform]
  obtain ⟨answer, after, hexec, houtcome⟩ := exec_failover_of_servedBy hserved
    (.register (deployment.managers.get client.manager).record)
    (deployment.note (.logged .info ("Registering "
      ++ (deployment.managers.get client.manager).record.display ++ " with the registry") []))
  rw [hexec]
  cases houtcome with
  | taken => exact .taken _
  | refused error left hleft hless => exact .refused error left _ hleft hless

theorem exec_push {client : RegistryClient} (hserved : client.ServedBy registry)
    (hlive : client.isShutDown = false) (change : StatusChange) (deployment : Deployment) :
    ∃ answer, Deployment.Publication registry client.manager deployment answer
      ((push client change).exec deployment).2 := by
  have hpublication := exec_register hserved deployment
  unfold push
  rw [hlive, if_neg Bool.false_ne_true, exec_bind]
  cases hanswer : ((register client).exec deployment).1 with
  | ok =>
      rw [hanswer] at hpublication
      exact ⟨_, hpublication⟩
  | error error =>
      rw [hanswer] at hpublication
      exact ⟨_, hpublication.of_trace _⟩

theorem exec_push_of_isShutDown {client : RegistryClient} (hended : client.isShutDown = true)
    (change : StatusChange) (deployment : Deployment) :
    (push client change).exec deployment = ((), deployment) := by
  rw [push, if_pos hended]
  rfl

theorem exec_tell_client {number : Nat} {client : RegistryClient} {deployment : Deployment}
    (hclient : deployment.clients.get number = .registry client) (change : StatusChange) :
    (tell change (.client number)).exec deployment = (push client change).exec deployment := by
  simp only [tell, exec_bind, exec_get, hclient]

/-- Observers only note what they are told. -/
theorem exec_forM_tell_observers (change : StatusChange) {entries : List (String × Listener)}
    (hentries : entries.filterMap (fun entry => entry.2.client?) = []) (deployment : Deployment) :
    ∃ trace, (entries.forM fun entry => tell change entry.2).exec deployment =
      ((), { deployment with trace }) := by
  induction entries generalizing deployment with
  | nil => exact ⟨deployment.trace, rfl⟩
  | cons entry rest ih =>
      obtain ⟨id, listener⟩ := entry
      cases listener with
      | client number => simp [Listener.client?] at hentries
      | observer tag => exact ih hentries (deployment.note (.statusChanged tag change))

/-- With one client among the listeners, telling them is telling that client. -/
theorem exec_forM_tell_client (change : StatusChange) {number : Nat}
    {entries : List (String × Listener)}
    (hentries : entries.filterMap (fun entry => entry.2.client?) = [number])
    (deployment : Deployment) :
    ∃ earlier later, (entries.forM fun entry => tell change entry.2).exec deployment =
      ((), { ((tell change (.client number)).exec { deployment with trace := earlier }).2 with
        trace := later }) := by
  induction entries generalizing deployment with
  | nil => simp at hentries
  | cons entry rest ih =>
      obtain ⟨id, listener⟩ := entry
      cases listener with
      | observer tag => exact ih hentries (deployment.note (.statusChanged tag change))
      | client other =>
          simp only [Listener.client?, List.filterMap_cons, List.cons.injEq] at hentries
          obtain ⟨rfl, hrest⟩ := hentries
          obtain ⟨later, hlater⟩ := exec_forM_tell_observers change hrest
            ((tell change (.client other)).exec deployment).2
          exact ⟨deployment.trace, later, hlater⟩

theorem exec_setStatus_of_eq {manager : Nat} {status : InstanceStatus} {deployment : Deployment}
    (hstatus : (deployment.managers.get manager).record.status = status) :
    (setStatus manager status).exec deployment = ((), deployment) := by
  simp only [setStatus, exec_bind, exec_get, exec_set, InstanceManager.setStatus_of_eq hstatus,
    Deployment.setManager_get]
  rfl

/-- A change of the status is noted, and then the listeners are told. -/
theorem exec_setStatus_told {manager : Nat} {status : InstanceStatus} {deployment : Deployment}
    (hstatus : (deployment.managers.get manager).record.status ≠ status) :
    ∃ message, (setStatus manager status).exec deployment =
      ((deployment.managers.get manager).listeners.toList.forM fun entry =>
        tell ⟨(deployment.managers.get manager).record.status, status⟩ entry.2).exec
          ((deployment.restated manager status).note (.logged .info message [])) := by
  refine ⟨"Instance status changed from " ++ (deployment.managers.get manager).record.status.name
      ++ " to " ++ status.name, ?_⟩
  have hchange : ((deployment.managers.get manager).setStatus deployment.clock status).1 =
      some ⟨(deployment.managers.get manager).record.status, status⟩ := by
    simp [InstanceManager.setStatus, Instance.setStatus, hstatus]
  simp only [setStatus, exec_bind, exec_get, exec_set, hchange, exec_inform]
  rfl

theorem exec_setStatus_of_ne {manager : Nat} {status : InstanceStatus} {deployment : Deployment}
    (hstatus : (deployment.managers.get manager).record.status ≠ status) :
    ∃ change trace, (setStatus manager status).exec deployment =
      ((deployment.managers.get manager).listeners.toList.forM fun entry =>
        tell change entry.2).exec { deployment.restated manager status with trace } := by
  obtain ⟨message, hexec⟩ := exec_setStatus_told hstatus
  exact ⟨_, _, hexec⟩

theorem exec_setStatus_of_publishers_eq_nil {manager : Nat} {deployment : Deployment}
    (hpublishers : (deployment.managers.get manager).publishers = []) (status : InstanceStatus) :
    ∃ trace, (setStatus manager status).exec deployment =
      ((), { deployment.restated manager status with trace }) := by
  by_cases hstatus : (deployment.managers.get manager).record.status = status
  · refine ⟨deployment.trace, ?_⟩
    rw [exec_setStatus_of_eq hstatus, Deployment.restated_of_eq hstatus]
  · obtain ⟨change, earlier, hexec⟩ := exec_setStatus_of_ne hstatus
    obtain ⟨trace, htell⟩ := exec_forM_tell_observers change hpublishers
      { deployment.restated manager status with trace := earlier }
    exact ⟨trace, hexec.trans htell⟩

theorem exec_setStatus_of_publisher {manager number : Nat} {status : InstanceStatus}
    {deployment : Deployment} {client : RegistryClient}
    (hpublishers : (deployment.managers.get manager).publishers = [number])
    (hclient : deployment.clients.get number = .registry client)
    (hstatus : (deployment.managers.get manager).record.status ≠ status) :
    ∃ change earlier later, (setStatus manager status).exec deployment =
      ((), { ((push client change).exec
        { deployment.restated manager status with trace := earlier }).2 with trace := later }) := by
  obtain ⟨change, trace, hexec⟩ := exec_setStatus_of_ne hstatus
  obtain ⟨earlier, later, htell⟩ := exec_forM_tell_client change hpublishers
    { deployment.restated manager status with trace }
  refine ⟨change, earlier, later, hexec.trans (htell.trans ?_)⟩
  rw [exec_tell_client (by exact hclient)]

/-- A change is published by the one client that listens, if it has not ended. -/
theorem exec_setStatus_published {manager number : Nat} {status : InstanceStatus}
    {deployment : Deployment} {client : RegistryClient}
    (hpublishers : (deployment.managers.get manager).publishers = [number])
    (hclient : deployment.clients.get number = .registry client)
    (hserved : client.ServedBy registry) (hlive : client.isShutDown = false)
    (hstatus : (deployment.managers.get manager).record.status ≠ status) :
    ∃ answer, Deployment.Publication registry client.manager (deployment.restated manager status)
      answer ((setStatus manager status).exec deployment).2 := by
  obtain ⟨change, earlier, later, hexec⟩ :=
    exec_setStatus_of_publisher hpublishers hclient hstatus
  obtain ⟨answer, hpublication⟩ := exec_push hserved hlive change
    { deployment.restated manager status with trace := earlier }
  rw [hexec]
  exact ⟨answer, hpublication.of_trace later⟩

end Action

end MemberDiscovery
