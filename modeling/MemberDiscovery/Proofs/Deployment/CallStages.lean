import MemberDiscovery.Proofs.Deployment.Session

/-! # The stages of a call

A call of one of a client's operations is done in stages, each of them at once: it reads or sets the
flag of the client, takes a snapshot of the record or changes it, looks for listeners or makes a
request. `CallStage.step` does what a call is about to do. Without anybody in between, a renewal, a
change of the status and the end of a client go through their stages to the same result as at one
go (`CallStage.steps_renew`, `CallStage.steps_setStatus`, `CallStage.steps_shutDown`).
-/

namespace MemberDiscovery

/-- What the callers of one client have in common. -/
structure SharedClient where
  manager : InstanceManager
  isShutDown : Bool
  registry : Registry

/-- What a call is about to do, at once. -/
inductive CallStage where
  /-- A renewal reads the flag. -/
  | renew
  | takeHeartbeat
  | heartbeat (record : Instance)
  /-- A registration takes the record. -/
  | take
  | publish (record : Instance)
  | confirm (record : Instance)
  | setStatus (status : InstanceStatus)
  /-- A change of the status looks for the client among the listeners. -/
  | tell
  /-- The client is told, and reads the flag. -/
  | push
  /-- The end of the client sets the flag. -/
  | shutDown
  | unlisten
  | takeCancellation
  | cancel (record : Instance)
  | returned (answer : Except ClientError Unit)

namespace CallStage

/-- Does what a call with the client with a number is about to do. The client registers, so its end
takes the record back. -/
def step (number : Nat) (now : Timestamp) (stage : CallStage) (shared : SharedClient) :
    CallStage × SharedClient :=
  match stage with
  | .renew =>
    if shared.isShutDown then (.returned (.error .shutDown), shared) else (.takeHeartbeat, shared)
  | .takeHeartbeat => (.heartbeat shared.manager.record, shared)
  | .heartbeat record =>
    match shared.registry.submit now (.heartbeat record) with
    | (.error error, registry) => (.returned (.error error), { shared with registry })
    | (.ok .renewed, registry) => (.returned (.ok ()), { shared with registry })
    | (.ok .notFound, registry) => (.take, { shared with registry })
  | .take => (.publish shared.manager.record, shared)
  | .publish record =>
    match shared.registry.submit now (.register record) with
    | (.error error, registry) => (.returned (.error error), { shared with registry })
    | (.ok (), registry) => (.confirm record, { shared with registry })
  | .confirm record =>
    (.returned (.ok ()), { shared with manager := shared.manager.clearDirty record.lastDirty })
  | .setStatus status =>
    match shared.manager.setStatus now status with
    | (none, manager) => (.returned (.ok ()), { shared with manager })
    | (some _, manager) => (.tell, { shared with manager })
  | .tell =>
    if shared.manager.listeners.get? Action.clientListenerId = some (.client number) then
      (.push, shared)
    else (.returned (.ok ()), shared)
  | .push => if shared.isShutDown then (.returned (.ok ()), shared) else (.take, shared)
  | .shutDown =>
    if shared.isShutDown then (.returned (.ok ()), shared)
    else (.unlisten, { shared with isShutDown := true })
  | .unlisten =>
    (.takeCancellation,
      { shared with manager := shared.manager.unlisten Action.clientListenerId })
  | .takeCancellation => (.cancel shared.manager.record, shared)
  | .cancel record =>
    (.returned (.ok ()),
      { shared with registry := (shared.registry.submit now (.cancel record.app record.id)).2 })
  | .returned answer => (.returned answer, shared)

/-- A call that goes on for so many stages without anybody in between. -/
def steps (number : Nat) (now : Timestamp) :
    Nat → CallStage → SharedClient → CallStage × SharedClient
  | 0, stage, shared => (stage, shared)
  | count + 1, stage, shared =>
    (stage.step number now shared).1.steps number now count (stage.step number now shared).2

end CallStage

/-- What the callers of a client that is served by a registry in memory have in common. -/
def Deployment.sharing (number registry : Nat) (client : RegistryClient) (deployment : Deployment) :
    SharedClient where
  manager := deployment.managers.get client.manager
  isShutDown :=
    match deployment.clients.get number with
    | .registry client => client.isShutDown
    | .scripted _ => false
  registry := deployment.registries.get registry

/-! ## Calls without anybody in between -/

/-- The registry took the record. -/
def SharedClient.published (now : Timestamp) (shared : SharedClient) : SharedClient :=
  { shared with
    manager := shared.manager.clearDirty shared.manager.record.lastDirty
    registry := (shared.registry.accept now (.register shared.manager.record)).2 }

namespace CallStage

variable {number : Nat} {now : Timestamp} {shared : SharedClient}

theorem steps_returned (number : Nat) (now : Timestamp) (count : Nat)
    (answer : Except ClientError Unit) (shared : SharedClient) :
    (returned answer).steps number now count shared = (.returned answer, shared) := by
  induction count with
  | zero => rfl
  | succ count ih => exact ih

/-- The registry took a heartbeat, which leaves the records in it alone. -/
theorem step_heartbeat (hfailures : shared.registry.failures = []) (record : Instance) :
    (heartbeat record).step number now shared =
      (if shared.registry.knows record then .returned (.ok ()) else .take,
        { shared with registry := (shared.registry.accept now (.heartbeat record)).2 }) := by
  cases hknows : shared.registry.knows record <;>
    simp [step, Registry.submit_of_failures_eq_nil _ _ hfailures, Registry.accept,
      Registry.perform, hknows]

theorem step_publish (hfailures : shared.registry.failures = []) (record : Instance) :
    (publish record).step number now shared =
      (.confirm record,
        { shared with registry := (shared.registry.accept now (.register record)).2 }) := by
  rw [step, Registry.submit_of_failures_eq_nil _ _ hfailures]

theorem step_cancel (hfailures : shared.registry.failures = []) (record : Instance) :
    (cancel record).step number now shared =
      (.returned (.ok ()), { shared with
        registry := (shared.registry.accept now (.cancel record.app record.id)).2 }) := by
  rw [step, Registry.submit_of_failures_eq_nil _ _ hfailures]

theorem steps_take (hfailures : shared.registry.failures = []) :
    take.steps number now 3 shared = (.returned (.ok ()), shared.published now) := by
  change (publish shared.manager.record).steps number now 2 shared = _
  rw [steps, step_publish hfailures]
  rfl

/-- A client that listens and has not ended publishes a change. -/
theorem steps_tell (hfailures : shared.registry.failures = []) :
    tell.steps number now 5 shared =
      (.returned (.ok ()),
        if shared.manager.listeners.get? Action.clientListenerId = some (.client number) ∧
            shared.isShutDown = false then shared.published now
        else shared) := by
  rw [steps, step]
  by_cases hlistens : shared.manager.listeners.get? Action.clientListenerId = some (.client number)
  · rw [if_pos hlistens, steps, step]
    cases hended : shared.isShutDown with
    | true =>
        rw [if_pos rfl, if_neg (fun htold => Bool.noConfusion htold.2)]
        exact steps_returned _ _ _ _ _
    | false =>
        rw [if_neg Bool.false_ne_true, if_pos ⟨hlistens, rfl⟩]
        exact steps_take hfailures
  · rw [if_neg hlistens, if_neg (fun htold => hlistens htold.1)]
    exact steps_returned _ _ _ _ _

end CallStage

section Alone

variable {number registry : Nat} {client : RegistryClient} {deployment : Deployment}

theorem Deployment.sharing_eq (hclient : deployment.clients.get number = .registry client) :
    deployment.sharing number registry client =
      ⟨deployment.managers.get client.manager, client.isShutDown,
        deployment.registries.get registry⟩ := by
  rw [sharing, hclient]

theorem Deployment.sharing_published (number : Nat) (trace : List Event) :
    ({ deployment.published registry client.manager with trace } : Deployment).sharing number
        registry client =
      (deployment.sharing number registry client).published deployment.clock := by
  simp [sharing, published, SharedClient.published]

theorem Deployment.sharing_restated (number : Nat) (status : InstanceStatus) :
    (deployment.restated client.manager status).sharing number registry client =
      { deployment.sharing number registry client with
        manager := ((deployment.managers.get client.manager).setStatus deployment.clock
          status).2 } := by
  simp [sharing, restated, setManager]

namespace Action

theorem exec_register_of_failures_eq_nil (hserved : client.ServedBy registry)
    (hfailures : (deployment.registries.get registry).failures = []) :
    ∃ trace, (register client).exec deployment =
      (.ok (), { deployment.published registry client.manager with trace }) := by
  have hpublication := exec_register hserved deployment
  generalize (register client).exec deployment = result at hpublication ⊢
  obtain ⟨answer, after⟩ := result
  cases hpublication with
  | taken trace => exact ⟨trace, rfl⟩
  | refused error left trace hleft hless => simp [hfailures] at hless

theorem exec_renew_of_knows (hserved : client.ServedBy registry)
    (hfailures : (deployment.registries.get registry).failures = [])
    (hlive : client.isShutDown = false)
    (hknows : (deployment.registries.get registry).knows
      (deployment.managers.get client.manager).record = true) :
    (renew client).exec deployment = (.ok (), deployment.renewed registry client.manager) := by
  rw [renew_of_live hlive]
  unfold renewLease
  simp only [exec_bind, exec_getManager, exec_failover_of_failures_eq_nil hserved hfailures,
    Registry.accept, Registry.perform, hknows, if_pos]
  rfl

theorem exec_renew_of_not_knows (hserved : client.ServedBy registry)
    (hfailures : (deployment.registries.get registry).failures = [])
    (hlive : client.isShutDown = false)
    (hknows : (deployment.registries.get registry).knows
      (deployment.managers.get client.manager).record = false) :
    ∃ trace, (renew client).exec deployment = (.ok (),
      { (deployment.renewed registry client.manager).published registry client.manager with
        trace }) := by
  rw [renew_of_live hlive]
  unfold renewLease
  simp only [exec_bind, exec_getManager, exec_failover_of_failures_eq_nil hserved hfailures,
    Registry.accept, Registry.perform, hknows, if_neg Bool.false_ne_true, exec_inform]
  refine exec_register_of_failures_eq_nil hserved ?_
  simp [Deployment.note]

/-- A client that is the only one that may be told of a change publishes it if it listens and has
not ended. -/
theorem sharing_setStatus {status : InstanceStatus}
    (hclient : deployment.clients.get number = .registry client)
    (hserved : client.ServedBy registry)
    (hfailures : (deployment.registries.get registry).failures = [])
    (hpublishers : (deployment.managers.get client.manager).publishers =
      if (deployment.managers.get client.manager).listeners.get? clientListenerId =
          some (.client number) then [number] else [])
    (hstatus : (deployment.managers.get client.manager).record.status ≠ status) :
    ((setStatus client.manager status).exec deployment).2.sharing number registry client =
      let restated := (deployment.restated client.manager status).sharing number registry client
      if restated.manager.listeners.get? clientListenerId = some (.client number) ∧
          restated.isShutDown = false then restated.published deployment.clock
      else restated := by
  have hflag : ((deployment.restated client.manager status).sharing number registry
        client).isShutDown = client.isShutDown := by
    rw [Deployment.sharing_restated, Deployment.sharing_eq hclient]
  have hlisteners : ((deployment.restated client.manager status).sharing number registry
        client).manager.listeners = (deployment.managers.get client.manager).listeners := by
    rw [Deployment.sharing_restated, InstanceManager.setStatus_listeners]
  dsimp only
  rw [hflag, hlisteners]
  by_cases hlistens : (deployment.managers.get client.manager).listeners.get?
      clientListenerId = some (.client number)
  · rw [if_pos hlistens] at hpublishers
    cases hended : client.isShutDown with
    | true =>
        obtain ⟨change, earlier, later, hexec⟩ :=
          exec_setStatus_of_publisher hpublishers hclient hstatus
        rw [exec_push_of_isShutDown hended] at hexec
        rw [if_neg (fun hlive => Bool.noConfusion hlive.2), hexec]
        rfl
    | false =>
        obtain ⟨answer, hpublication⟩ :=
          exec_setStatus_published hpublishers hclient hserved hended hstatus
        obtain ⟨trace, hafter⟩ := hpublication.eq_of_failures_eq_nil hfailures
        rw [if_pos ⟨hlistens, rfl⟩, hafter, Deployment.sharing_published]
        rfl
  · rw [if_neg hlistens] at hpublishers
    obtain ⟨trace, hexec⟩ := exec_setStatus_of_publishers_eq_nil hpublishers status
    rw [if_neg (fun hlive => hlistens hlive.1), hexec]
    rfl

end Action

namespace CallStage

/-- A renewal goes through the stages of a renewal. -/
theorem steps_renew (hclient : deployment.clients.get number = .registry client)
    (hserved : client.ServedBy registry)
    (hfailures : (deployment.registries.get registry).failures = []) :
    renew.steps number deployment.clock 6 (deployment.sharing number registry client) =
      (.returned ((Action.renew client).exec deployment).1,
        ((Action.renew client).exec deployment).2.sharing number registry client) := by
  cases hended : client.isShutDown with
  | true =>
      have hexec : (Action.renew client).exec deployment = (.error .shutDown, deployment) := by
        rw [Action.renew, if_pos hended]
        rfl
      rw [hexec, Deployment.sharing_eq hclient, steps, step, hended]
      exact steps_returned _ _ _ _ _
  | false =>
      have hlive : renew.steps number deployment.clock 6
            (deployment.sharing number registry client) =
          (heartbeat (deployment.managers.get client.manager).record).steps number deployment.clock
            4 (deployment.sharing number registry client) := by
        rw [Deployment.sharing_eq hclient, hended]
        rfl
      have hrenewed : (deployment.renewed registry client.manager).sharing number registry client =
          { deployment.sharing number registry client with
            registry := ((deployment.registries.get registry).accept deployment.clock
              (.heartbeat (deployment.managers.get client.manager).record)).2 } := by
        simp [Deployment.renewed, Deployment.sharing, Deployment.setRegistry]
      rw [hlive, steps, step_heartbeat hfailures]
      dsimp only
      cases hknows : (deployment.registries.get registry).knows
          (deployment.managers.get client.manager).record with
      | true =>
          rw [Action.exec_renew_of_knows hserved hfailures hended hknows, hrenewed,
            if_pos (by exact hknows)]
          exact steps_returned _ _ _ _ _
      | false =>
          obtain ⟨trace, hexec⟩ :=
            Action.exec_renew_of_not_knows hserved hfailures hended hknows
          rw [hexec, Deployment.sharing_published, hrenewed,
            if_neg (by exact Bool.eq_false_iff.mp hknows)]
          exact steps_take rfl

/-- A status that is new to the record takes the call to the listeners. -/
theorem steps_setStatus_of_ne {status : InstanceStatus} {count : Nat}
    (hclient : deployment.clients.get number = .registry client)
    (hstatus : (deployment.managers.get client.manager).record.status ≠ status) :
    (setStatus status).steps number deployment.clock (count + 1)
        (deployment.sharing number registry client) =
      tell.steps number deployment.clock count
        ((deployment.restated client.manager status).sharing number registry client) := by
  have hset : (deployment.managers.get client.manager).setStatus deployment.clock status =
      (some ⟨(deployment.managers.get client.manager).record.status, status⟩,
        ((deployment.managers.get client.manager).setStatus deployment.clock status).2) := by
    simp [InstanceManager.setStatus, Instance.setStatus, hstatus]
  rw [Deployment.sharing_restated, Deployment.sharing_eq hclient, steps, step, hset]

/-- A change of the status goes through the stages of one if the client is the only one that may
be told. -/
theorem steps_setStatus (status : InstanceStatus)
    (hclient : deployment.clients.get number = .registry client)
    (hserved : client.ServedBy registry)
    (hfailures : (deployment.registries.get registry).failures = [])
    (hpublishers : (deployment.managers.get client.manager).publishers =
      if (deployment.managers.get client.manager).listeners.get? Action.clientListenerId =
          some (.client number) then [number] else []) :
    (setStatus status).steps number deployment.clock 6
        (deployment.sharing number registry client) =
      (.returned (.ok ()), ((Action.setStatus client.manager status).exec
        deployment).2.sharing number registry client) := by
  by_cases hstatus : (deployment.managers.get client.manager).record.status = status
  · rw [Action.exec_setStatus_of_eq hstatus, Deployment.sharing_eq hclient, steps, step,
      InstanceManager.setStatus_of_eq hstatus]
    exact steps_returned _ _ _ _ _
  · rw [steps_setStatus_of_ne hclient hstatus, steps_tell (by exact hfailures),
      Action.sharing_setStatus hclient hserved hfailures hpublishers hstatus]

/-- The end of a client that registers goes through the stages of one. -/
theorem steps_shutDown (hclient : deployment.clients.get number = .registry client)
    (hserved : client.ServedBy registry)
    (hfailures : (deployment.registries.get registry).failures = [])
    (hregisters : client.settings.registers = true) :
    shutDown.steps number deployment.clock 4 (deployment.sharing number registry client) =
      (.returned (.ok ()),
        ((Action.shutDown number).exec deployment).2.sharing number registry client) := by
  rw [Deployment.sharing_eq hclient]
  cases hended : client.isShutDown with
  | true =>
      rw [Action.exec_shutDown_of_isShutDown hclient hended, Deployment.sharing_eq hclient, hended]
      exact steps_returned _ _ _ _ _
  | false =>
      obtain ⟨trace, hexec⟩ :=
        Action.exec_shutDown_of_servedBy hclient hserved hended hregisters hfailures
      rw [hexec]
      simp [steps, step, Registry.submit_of_failures_eq_nil _ _ hfailures, Deployment.sharing,
        InstanceManager.unlisten]

end CallStage

end Alone

end MemberDiscovery
