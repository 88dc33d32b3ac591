import MemberDiscovery.Proofs.Deployment.Connection
import MemberDiscovery.Proofs.Deployment.Stability

/-! # What others see

`Deployment.outside` is the part of a deployment that is not the process alone: time, registries,
network, what others are going to do, and the calls that were made over the network. A request is
seen there and nowhere else. What a round of requests does to this part, and what it answers,
depends on this part only (`Action.Respects`).
-/

namespace MemberDiscovery

/-- What others see of a process. -/
structure Outside where
  clock : Timestamp
  registries : Slots Registry
  network : Network
  interventions : List (List Intervention)
  /-- The calls that were made over the network, oldest first. -/
  calls : List HttpCall

def Event.call? : Event → Option HttpCall
  | .called call => some call
  | _ => none

namespace Deployment

def outside (deployment : Deployment) : Outside where
  clock := deployment.clock
  registries := deployment.registries
  network := deployment.network
  interventions := deployment.interventions
  calls := deployment.trace.filterMap Event.call?

variable {deployment other : Deployment}

theorem outside_eq_iff : deployment.outside = other.outside ↔
    deployment.clock = other.clock ∧ deployment.registries = other.registries ∧
      deployment.network = other.network ∧ deployment.interventions = other.interventions ∧
        deployment.trace.filterMap Event.call? = other.trace.filterMap Event.call? := by
  rw [outside, outside, Outside.mk.injEq]

@[simp] theorem outside_setManager (number : Nat) (manager : InstanceManager) :
    (deployment.setManager number manager).outside = deployment.outside := rfl

@[simp] theorem outside_setClient (number : Nat) (client : Client) :
    (deployment.setClient number client).outside = deployment.outside := rfl

theorem outside_note {event : Event} (hevent : event.call? = none) :
    (deployment.note event).outside = deployment.outside := by
  simp [outside, note, List.filterMap_append, hevent]

@[simp] theorem outside_note_logged (level : LogLevel) (message : String)
    (fields : List (String × String)) :
    (deployment.note (.logged level message fields)).outside = deployment.outside :=
  outside_note rfl

theorem outside_setRegistry (houtside : deployment.outside = other.outside) (number : Nat)
    (registry : Registry) :
    (deployment.setRegistry number registry).outside =
      (other.setRegistry number registry).outside := by
  obtain ⟨hclock, hregistries, hnetwork, hinterventions, hcalls⟩ := outside_eq_iff.mp houtside
  refine outside_eq_iff.mpr ⟨hclock, ?_, hnetwork, hinterventions, hcalls⟩
  rw [registries_setRegistry, registries_setRegistry, hregistries]

/-- What others do to a registry is a matter of what they see. -/
theorem outside_intervene (houtside : deployment.outside = other.outside)
    (intervention : Intervention) :
    (deployment.intervene intervention).outside = (other.intervene intervention).outside := by
  obtain ⟨-, hregistries, -⟩ := outside_eq_iff.mp houtside
  cases intervention <;>
    · simp only [intervene, hregistries]
      exact outside_setRegistry houtside _ _

theorem outside_sleep (houtside : deployment.outside = other.outside) (milliseconds : Nat) :
    (deployment.sleep milliseconds).outside = (other.sleep milliseconds).outside := by
  have hall : ∀ (interventions : List Intervention) {left right : Deployment},
      left.outside = right.outside →
        (interventions.foldl intervene left).outside =
          (interventions.foldl intervene right).outside := by
    intro interventions
    induction interventions with
    | nil => exact fun hsame => hsame
    | cons intervention rest ih => exact fun hsame => ih (outside_intervene hsame intervention)
  have hslept : ((deployment.advance milliseconds).note (.slept milliseconds)).outside =
      ((other.advance milliseconds).note (.slept milliseconds)).outside := by
    obtain ⟨hclock, hregistries, hnetwork, hinterventions, hcalls⟩ := outside_eq_iff.mp houtside
    refine outside_eq_iff.mpr ⟨?_, hregistries, hnetwork, hinterventions, ?_⟩
    · simp [note, advance, hclock]
    · simp [note, advance, List.filterMap_append, hcalls]
  obtain ⟨hclock, hregistries, hnetwork, hinterventions, hcalls⟩ := outside_eq_iff.mp hslept
  unfold sleep
  dsimp only
  rw [hinterventions]
  split
  next => exact hslept
  next actions left hnext =>
    exact hall actions (outside_eq_iff.mpr ⟨hclock, hregistries, hnetwork, rfl, hcalls⟩)

end Deployment

namespace Action

variable {α β : Type}

/-- The answer of an action and what others see of it depend on what others see only. -/
def Respects (action : Action α) : Prop :=
  ∀ left right : Deployment, left.outside = right.outside →
    (action.exec left).1 = (action.exec right).1 ∧
      (action.exec left).2.outside = (action.exec right).2.outside

namespace Respects

theorem pure (value : α) : Respects (Pure.pure value : Action α) := fun _ _ hsame => ⟨rfl, hsame⟩

theorem bind {action : Action α} {next : α → Action β} (haction : Respects action)
    (hnext : ∀ value, Respects (next value)) : Respects (action >>= next) := by
  intro left right hsame
  obtain ⟨hanswer, houtside⟩ := haction left right hsame
  rw [exec_bind, exec_bind, hanswer]
  exact hnext _ _ _ houtside

theorem ite {condition : Prop} [Decidable condition] {first second : Action α}
    (hfirst : Respects first) (hsecond : Respects second) :
    Respects (if condition then first else second) := by
  split
  · exact hfirst
  · exact hsecond

theorem exchange (proxy : Option HttpProxy) (url : Url) (call : HttpCall) :
    Respects (Action.exchange proxy url call) := by
  intro left right hsame
  obtain ⟨hclock, hregistries, hnetwork, hinterventions, hcalls⟩ :=
    Deployment.outside_eq_iff.mp hsame
  unfold Action.exchange
  rw [exec_bind, exec_bind, exec_get, exec_get]
  dsimp only
  rw [exec_ite, exec_ite, hnetwork]
  split
  next =>
    refine ⟨rfl, Deployment.outside_eq_iff.mpr ⟨hclock, hregistries, rfl, hinterventions, ?_⟩⟩
    simp [Deployment.note, List.filterMap_append, hcalls]
  next => exact ⟨rfl, hsame⟩

theorem submit (request : Request α) (server : Transport) :
    Respects (Action.submit request server) := by
  cases server with
  | memory registry url =>
      intro left right hsame
      obtain ⟨hclock, hregistries, -⟩ := Deployment.outside_eq_iff.mp hsame
      rw [exec_submit_memory, exec_submit_memory, hclock, hregistries]
      exact ⟨rfl, Deployment.outside_setRegistry hsame registry _⟩
  | remote server =>
      change Respects (Action.submitRemote server request)
      unfold Action.submitRemote
      split
      next => exact .pure _
      next url _ =>
        refine .bind (.exchange server.proxy url _) ?_
        intro reply
        cases reply <;> exact .pure _

theorem failover (request : Request α) (servers : List Transport) :
    Respects (MemberDiscovery.failover (Action.submit request) servers) := by
  have hrest : ∀ (attempted : Nat) (last : Option ClientError),
      Respects (Failover.askRest (Action.submit request) attempted last servers) := by
    induction servers with
    | nil =>
        intro attempted last
        cases last <;> exact .pure _
    | cons server rest ih =>
        intro attempted last
        refine .bind (.submit request server) ?_
        intro answer
        cases answer with
        | ok answer => exact .pure _
        | error error => exact .ite (.pure _) (ih _ _)
  exact hrest 0 none

end Respects

/-- Others do not see the action. -/
def Silent (action : Action α) : Prop :=
  ∀ deployment : Deployment, (action.exec deployment).2.outside = deployment.outside

theorem Silent.pure (value : α) : Silent (Pure.pure value : Action α) := fun _ => rfl

theorem Silent.bind {action : Action α} {next : α → Action β} (haction : Silent action)
    (hnext : ∀ value, Silent (next value)) : Silent (action >>= next) := fun deployment =>
  (hnext _ _).trans (haction deployment)

theorem Silent.log (level : LogLevel) (message : String) (fields : List (String × String)) :
    Silent (Action.log level message fields) := fun _ =>
  Deployment.outside_note_logged level message fields

/-- Of an action between silent ones only the action is seen. -/
theorem outside_exec_bind {action : Action α} {next : α → Action β} (haction : Respects action)
    (hnext : ∀ value, Silent (next value)) {left right : Deployment}
    (hsame : left.outside = right.outside) :
    ((action >>= next).exec left).2.outside = (action.exec right).2.outside :=
  (hnext _ _).trans (haction left right hsame).2

/-! ## Publications -/

/-- A publication is seen as the round of requests that it makes. -/
theorem outside_register (client : RegistryClient) (deployment : Deployment) :
    ((register client).exec deployment).2.outside =
      ((failover (submit (.register (deployment.managers.get client.manager).record))
        client.transports).exec deployment).2.outside := by
  unfold register
  rw [exec_bind, exec_getManager, exec_bind, exec_inform]
  refine outside_exec_bind (.failover _ _) ?_ (Deployment.outside_note_logged _ _ _)
  intro answer
  cases answer with
  | ok => exact .bind (fun _ => rfl) fun _ => .pure _
  | error error => exact .pure _

/-- A registration is answered as its round is. -/
theorem answer_register (client : RegistryClient) (deployment : Deployment) :
    ((register client).exec deployment).1 =
      ((failover (submit (.register (deployment.managers.get client.manager).record))
        client.transports).exec deployment).1 := by
  unfold register
  rw [exec_bind, exec_getManager, exec_bind, exec_inform, exec_bind]
  rw [(Respects.failover _ _ _ _ (Deployment.outside_note_logged _ _ _)).1]
  cases ((failover (submit (.register (deployment.managers.get client.manager).record))
    client.transports).exec deployment).1 with
  | ok => rfl
  | error error => rfl

theorem outside_push {client : RegistryClient} (hlive : client.isShutDown = false)
    (change : StatusChange) (deployment : Deployment) :
    ((push client change).exec deployment).2.outside =
      ((failover (submit (.register (deployment.managers.get client.manager).record))
        client.transports).exec deployment).2.outside := by
  unfold push
  rw [hlive, if_neg Bool.false_ne_true, exec_bind, ← outside_register]
  cases ((register client).exec deployment).1 with
  | ok => rfl
  | error error => exact Silent.log _ _ _ _

/-- Observers are told without a request. -/
theorem silent_forM_tell (change : StatusChange) {entries : List (String × Listener)}
    (hentries : entries.filterMap (fun entry => entry.2.client?) = []) :
    Silent (entries.forM fun entry => tell change entry.2) := by
  induction entries with
  | nil => exact .pure _
  | cons entry rest ih =>
      obtain ⟨id, listener⟩ := entry
      cases listener with
      | client number => simp [Listener.client?] at hentries
      | observer tag => exact .bind (fun _ => Deployment.outside_note rfl) fun _ => ih hentries

/-- With one client among the listeners, telling them is seen as telling that client. -/
theorem outside_forM_tell (change : StatusChange) {number : Nat} {client : RegistryClient}
    (hlive : client.isShutDown = false) {entries : List (String × Listener)}
    (hentries : entries.filterMap (fun entry => entry.2.client?) = [number])
    {deployment : Deployment} (hclient : deployment.clients.get number = .registry client) :
    ((entries.forM fun entry => tell change entry.2).exec deployment).2.outside =
      ((failover (submit (.register (deployment.managers.get client.manager).record))
        client.transports).exec deployment).2.outside := by
  induction entries generalizing deployment with
  | nil => simp at hentries
  | cons entry rest ih =>
      obtain ⟨id, listener⟩ := entry
      cases listener with
      | observer tag =>
          have hnoted : (deployment.note (.statusChanged tag change)).outside =
              deployment.outside := Deployment.outside_note rfl
          refine (@ih hentries (deployment.note (.statusChanged tag change)) hclient).trans ?_
          exact (Respects.failover _ _ _ _ hnoted).2
      | client other =>
          simp only [Listener.client?, List.filterMap_cons, List.cons.injEq] at hentries
          obtain ⟨rfl, hrest⟩ := hentries
          refine (silent_forM_tell change hrest
            ((tell change (.client other)).exec deployment).2).trans ?_
          rw [exec_tell_client hclient]
          exact outside_push hlive change deployment

/-- A status that no client is told is a matter of the process alone. -/
theorem outside_setStatus_of_publishers_eq_nil {manager : Nat} {deployment : Deployment}
    (hpublishers : (deployment.managers.get manager).publishers = []) (status : InstanceStatus) :
    ((setStatus manager status).exec deployment).2.outside = deployment.outside := by
  by_cases hstatus : (deployment.managers.get manager).record.status = status
  · rw [exec_setStatus_of_eq hstatus]
  · obtain ⟨message, hexec⟩ := exec_setStatus_told hstatus
    rw [hexec, silent_forM_tell _ hpublishers, Deployment.outside_note_logged]
    rfl

/-- A change of the status is seen as one round of requests, in which the client that listens
registers the changed record. -/
theorem outside_setStatus_of_publisher {manager number : Nat} {status : InstanceStatus}
    {deployment : Deployment} {client : RegistryClient}
    (hpublishers : (deployment.managers.get manager).publishers = [number])
    (hclient : deployment.clients.get number = .registry client)
    (hmanager : client.manager = manager) (hlive : client.isShutDown = false)
    (hstatus : (deployment.managers.get manager).record.status ≠ status) :
    ((setStatus manager status).exec deployment).2.outside =
      ((failover (submit (.register ((deployment.managers.get manager).setStatus deployment.clock
        status).2.record)) client.transports).exec deployment).2.outside := by
  obtain ⟨message, hexec⟩ := exec_setStatus_told hstatus
  have hnoted : ((deployment.restated manager status).note (.logged .info message [])).outside =
      deployment.outside := Deployment.outside_note_logged _ _ _
  have hrecord : (((deployment.restated manager status).note
      (.logged .info message [])).managers.get client.manager).record =
        ((deployment.managers.get manager).setStatus deployment.clock status).2.record := by
    simp [Deployment.note, Deployment.restated, hmanager]
  rw [hexec, outside_forM_tell _ hlive hpublishers (by exact hclient), hrecord]
  exact (Respects.failover _ _ _ _ hnoted).2

/-! ## The end of a client -/

theorem outside_unregister (client : RegistryClient) (deployment : Deployment) :
    ((unregister client).exec deployment).2.outside =
      ((failover (submit (.cancel (deployment.managers.get client.manager).record.app
        (deployment.managers.get client.manager).record.id)) client.transports).exec
          deployment).2.outside := by
  unfold unregister
  rw [exec_bind, exec_getManager, exec_bind, exec_inform]
  refine outside_exec_bind (.failover _ _) ?_ (Deployment.outside_note_logged _ _ _)
  intro answer
  cases answer with
  | ok => exact .pure _
  | error error => exact .log _ _ _

/-- The end of a client that has not ended is seen as one round in which it takes its record back,
or not at all if it does not register. -/
theorem outside_shutDown {number : Nat} {client : RegistryClient} {deployment : Deployment}
    (hclient : deployment.clients.get number = .registry client)
    (hlive : client.isShutDown = false) :
    ((shutDown number).exec deployment).2.outside =
      if client.settings.registers then
        ((failover (submit (.cancel (deployment.managers.get client.manager).record.app
          (deployment.managers.get client.manager).record.id)) client.transports).exec
            deployment).2.outside
      else deployment.outside := by
  have hended : (deployment.disconnected number client).outside = deployment.outside := by
    simp [Deployment.disconnected]
  rw [exec_shutDown_of_live hclient hlive]
  split
  next =>
    rw [outside_unregister, Deployment.record_disconnected]
    exact (Respects.failover _ _ _ _ hended).2
  next => exact hended

end Action

end MemberDiscovery
