import MemberDiscovery.Proofs.Deployment.Outside

/-! # Heartbeats

The thread of a client renews the lease of the record whenever it has waited long enough, and it
does so whether or not the client is closed. What a heartbeat does is a matter of the record and of
what others see (`Action.RespectsRecord.sendHeartbeat`). So heartbeats that are due while a client
ends are seen as heartbeats before its end (`RegistryClient.outside_endDuring`): none of them comes
after the record was taken back.
-/

namespace MemberDiscovery

/-- Two deployments are alike to others and in the record of a manager. -/
structure Deployment.Agree (manager : Nat) (left right : Deployment) : Prop where
  outside : left.outside = right.outside
  record : (left.managers.get manager).record = (right.managers.get manager).record

namespace Action

variable {α β : Type}

/-- The answer of an action, what others see of it and what it does to the record of a manager
depend on that record and on what others see only. -/
def RespectsRecord (manager : Nat) (action : Action α) : Prop :=
  ∀ left right : Deployment, left.Agree manager right →
    (action.exec left).1 = (action.exec right).1 ∧
      (action.exec left).2.Agree manager (action.exec right).2

namespace RespectsRecord

variable {manager : Nat}

theorem pure (value : α) : RespectsRecord manager (Pure.pure value : Action α) :=
  fun _ _ hagree => ⟨rfl, hagree⟩

theorem bind {action : Action α} {next : α → Action β} (haction : RespectsRecord manager action)
    (hnext : ∀ value, RespectsRecord manager (next value)) :
    RespectsRecord manager (action >>= next) := by
  intro left right hagree
  obtain ⟨hanswer, hafter⟩ := haction left right hagree
  rw [exec_bind, exec_bind, hanswer]
  exact hnext _ _ _ hafter

/-- Of the manager nothing but the record may be looked at. -/
theorem bind_record {next : InstanceManager → Action β}
    (hrecord : ∀ left right : InstanceManager, left.record = right.record → next left = next right)
    (hnext : ∀ state, RespectsRecord manager (next state)) :
    RespectsRecord manager (getManager manager >>= next) := by
  intro left right hagree
  rw [exec_bind, exec_bind, exec_getManager, exec_getManager, hrecord _ _ hagree.record]
  exact hnext _ _ _ hagree

theorem log (level : LogLevel) (message : String) (fields : List (String × String)) :
    RespectsRecord manager (Action.log level message fields) := by
  intro left right hagree
  refine ⟨rfl, ?_, hagree.record⟩
  rw [exec_log, exec_log, Deployment.outside_note_logged, Deployment.outside_note_logged,
    hagree.outside]

theorem failover (request : Request α) (servers : List Transport) :
    RespectsRecord manager (MemberDiscovery.failover (Action.submit request) servers) := by
  intro left right hagree
  obtain ⟨hanswer, houtside⟩ := Respects.failover request servers left right hagree.outside
  refine ⟨hanswer, houtside, ?_⟩
  rw [(own_failover request servers left).2, (own_failover request servers right).2, hagree.record]

theorem clearDirty (sent : Timestamp) :
    RespectsRecord manager (modifyManager manager fun _ state => state.clearDirty sent) := by
  intro left right hagree
  refine ⟨rfl, hagree.outside, ?_⟩
  simp [modifyManager, InstanceManager.clearDirty, hagree.record]

theorem register (client : RegistryClient) :
    RespectsRecord client.manager (Action.register client) := by
  refine .bind_record (fun _ _ hrecord => by simp only [hrecord]) ?_
  intro state
  refine .bind (.log _ _ _) fun _ => .bind (.failover _ _) ?_
  intro answer
  cases answer with
  | ok => exact .bind (.clearDirty _) fun _ => .pure _
  | error error => exact .pure _

theorem renewLease (client : RegistryClient) :
    RespectsRecord client.manager (Action.renewLease client) := by
  refine .bind_record (fun _ _ hrecord => by simp only [hrecord]) ?_
  intro state
  refine .bind (.failover _ _) ?_
  intro answer
  cases answer with
  | error error => exact .pure _
  | ok heartbeat =>
      cases heartbeat with
      | renewed => exact .pure _
      | notFound => exact .bind (.log _ _ _) fun _ => .register client

theorem sendHeartbeat (client : RegistryClient) :
    RespectsRecord client.manager (Action.sendHeartbeat client) := by
  refine .bind (.renewLease client) ?_
  intro answer
  cases answer with
  | ok => exact .pure _
  | error error => exact .log _ _ _

end RespectsRecord

variable {number : Nat} {client : RegistryClient} {deployment : Deployment}

theorem exec_beat (hclient : deployment.clients.get number = .registry client) (waited : Nat) :
    (beat number waited).exec deployment =
      if client.heartbeat.any (· ≤ waited) then (sendHeartbeat client).exec deployment
      else ((), deployment) := by
  rw [beat, exec_bind, exec_get]
  dsimp only
  rw [hclient]
  exact exec_ite _ _ _ _

/-- Without a thread there are no heartbeats. -/
theorem exec_beat_of_heartbeat_eq_none
    (hclient : deployment.clients.get number = .registry client)
    (hnone : client.heartbeat = none) (waited : Nat) :
    (beat number waited).exec deployment = ((), deployment) := by
  rw [exec_beat hclient, hnone]
  rfl

/-- A heartbeat leaves clients and listeners as they are. -/
theorem own_beat (manager number waited : Nat) (deployment : Deployment) :
    ((beat number waited).exec deployment).2.clients = deployment.clients ∧
      (((beat number waited).exec deployment).2.managers.get manager).listeners =
        (deployment.managers.get manager).listeners :=
  (stable_listeners manager deployment.clients
    (deployment.managers.get manager).listeners).lasting.beat number waited deployment ⟨rfl, rfl⟩

end Action

namespace Deployment

/-! ## The end of a client that has a thread -/

/-- A client that is closed in one deployment and open in another one, which is alike. -/
structure Closing (number : Nat) (client : RegistryClient) (closed live : Deployment) : Prop
    extends closed.Agree client.manager live where
  closedClient : closed.clients.get number = .registry { client with isShutDown := true }
  liveClient : live.clients.get number = .registry client

namespace Closing

variable {number : Nat} {client : RegistryClient} {closed live : Deployment}

theorem of_closed (hclient : live.clients.get number = .registry client) :
    Closing number client (live.closed number client) live where
  outside := by simp [Deployment.closed]
  record := by simp [Deployment.closed, InstanceManager.unlisten]
  closedClient := by simp [Deployment.closed, note]
  liveClient := hclient

/-- A heartbeat does not ask whether its client is closed. -/
theorem beat (hclosing : Closing number client closed live) (waited : Nat) :
    Closing number client ((Action.beat number waited).exec closed).2
      ((Action.beat number waited).exec live).2 where
  toAgree := by
    rw [Action.exec_beat hclosing.closedClient, Action.exec_beat hclosing.liveClient]
    split
    next => exact (Action.RespectsRecord.sendHeartbeat client closed live hclosing.toAgree).2
    next => exact hclosing.toAgree
  closedClient := by
    rw [(Action.own_beat client.manager number waited closed).1]
    exact hclosing.closedClient
  liveClient := by
    rw [(Action.own_beat client.manager number waited live).1]
    exact hclosing.liveClient

theorem beats (hclosing : Closing number client closed live) (waits : List Nat) :
    Closing number client ((waits.forM (Action.beat number)).exec closed).2
      ((waits.forM (Action.beat number)).exec live).2 := by
  induction waits generalizing closed live with
  | nil => exact hclosing
  | cons waited rest ih => exact ih (hclosing.beat waited)

/-- From here on the end of the closed client is seen as the whole end of the other one. -/
theorem outside_stop (hclosing : Closing number client closed live)
    (hlive : client.isShutDown = false) :
    ((Action.stopAndUnregister number client).exec closed).2.outside =
      ((Action.shutDown number).exec live).2.outside := by
  have hstopped : (closed.setClient number (.registry client.ended)).outside = live.outside :=
    hclosing.outside
  rw [Action.outside_shutDown hclosing.liveClient hlive, Action.exec_stopAndUnregister]
  split
  next =>
    rw [Action.outside_unregister, managers_setClient, hclosing.record]
    exact (Action.Respects.failover _ _ _ _ hstopped).2
  next => exact hstopped

end Closing

end Deployment

/-- Ends a client whose thread, while it is waited for, wakes up after so many seconds each. -/
def RegistryClient.endDuring (client : RegistryClient) (number : Nat) (waits : List Nat) :
    Action Unit := do
  Action.close number client
  waits.forM (Action.beat number)
  Action.stopAndUnregister number client

theorem RegistryClient.outside_endDuring {client : RegistryClient} {number : Nat}
    {before : Deployment} (hclient : before.clients.get number = .registry client)
    (hlive : client.isShutDown = false) (waits : List Nat) :
    ((client.endDuring number waits).exec before).2.outside =
      ((do
        waits.forM (Action.beat number)
        Action.shutDown number).exec before).2.outside :=
  ((Deployment.Closing.of_closed hclient).beats waits).outside_stop hlive

end MemberDiscovery
