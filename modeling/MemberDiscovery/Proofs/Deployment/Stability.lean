import MemberDiscovery.Deployment.Client
import MemberDiscovery.Proofs.Deployment.Exchanges
import MemberDiscovery.Proofs.Deployment.Publishing

/-! # What actions keep

`Action.Keeps` says that a property of deployments holds after an action if it held before. A
property is lasting if requests, notes and changes of records do not end it, except changes of who
listens to a record and of its application and id; it is stable if it does not depend on registries
and records at all. All that clients do except making, using up and ending them keeps what is
lasting.
-/

namespace MemberDiscovery

namespace Action

variable {α β : Type}

/-- Whatever an action does, a property of deployments still holds. -/
def Keeps (P : Deployment → Prop) (action : Action α) : Prop :=
  ∀ deployment, P deployment → P (action.exec deployment).2

namespace Keeps

variable {P : Deployment → Prop} {action : Action α}

theorem pure (value : α) : Keeps P (Pure.pure value : Action α) := fun _ hbefore => hbefore

theorem bind {next : α → Action β} (haction : Keeps P action)
    (hnext : ∀ value, Keeps P (next value)) : Keeps P (action >>= next) := fun deployment hbefore =>
  hnext _ _ (haction deployment hbefore)

theorem get_bind {next : Deployment → Action β}
    (hnext : ∀ deployment, P deployment → P ((next deployment).exec deployment).2) :
    Keeps P (get >>= next) := hnext

theorem modify {change : Deployment → Deployment}
    (hchange : ∀ deployment, P deployment → P (change deployment)) :
    Keeps P (modify change : Action PUnit) := hchange

theorem ite {condition : Prop} [Decidable condition] {first second : Action α}
    (hfirst : Keeps P first) (hsecond : Keeps P second) :
    Keeps P (if condition then first else second) := by
  split
  · exact hfirst
  · exact hsecond

theorem forM {items : List β} {visit : β → Action PUnit} (hvisit : ∀ item, Keeps P (visit item)) :
    Keeps P (items.forM visit) := by
  induction items with
  | nil => exact pure _
  | cons item rest ih => exact bind (hvisit item) fun _ => ih

theorem log (htrace : ∀ deployment trace, P deployment → P { deployment with trace })
    (level : LogLevel) (message : String) (fields : List (String × String)) :
    Keeps P (Action.log level message fields) := fun deployment => htrace deployment _

/-- Asking servers in order keeps what asking each of them keeps. -/
theorem failover {ask : Transport → Action (Except ClientError α)} {servers : List Transport}
    (hask : ∀ server ∈ servers, Keeps P (ask server)) :
    Keeps P (MemberDiscovery.failover ask servers) := by
  have hrest : ∀ (attempted : Nat) (last : Option ClientError),
      Keeps P (Failover.askRest ask attempted last servers) := by
    induction servers with
    | nil =>
        intro attempted last
        cases last <;> exact .pure _
    | cons server rest ih =>
        intro attempted last
        refine bind (hask server List.mem_cons_self) ?_
        intro answer
        cases answer with
        | ok answer => exact .pure _
        | error error =>
            exact .ite (.pure _) (ih (fun other hmem =>
              hask other (List.mem_cons_of_mem _ hmem)) _ _)
  exact hrest 0 none

theorem submitRemote (server : RemoteRegistry) (request : Request α)
    (hnetwork : ∀ deployment network trace, P deployment →
      P { deployment with network, trace }) : Keeps P (Action.submitRemote server request) := by
  unfold Action.submitRemote
  split
  next => exact .pure _
  next url hurl =>
    refine bind ?_ ?_
    · intro deployment hbefore
      obtain ⟨reply, network, trace, hexec, -⟩ :=
        exec_exchange server.proxy url (RemoteRegistry.call request) deployment
      rw [hexec]
      exact hnetwork deployment network trace hbefore
    · intro reply
      cases reply <;> exact .pure _

end Keeps

/-- A request and its answer leave clients and records as they are. -/
theorem own_submit (request : Request α) (server : Transport) (deployment : Deployment) :
    ((submit request server).exec deployment).2.clients = deployment.clients ∧
      ((submit request server).exec deployment).2.managers = deployment.managers := by
  have hkeeps : Keeps (fun after : Deployment =>
      after.clients = deployment.clients ∧ after.managers = deployment.managers)
        (submit request server) := by
    cases server with
    | memory registry url => exact fun _ hsame => hsame
    | remote server => exact .submitRemote server request fun _ _ _ hsame => hsame
  exact hkeeps deployment ⟨rfl, rfl⟩

theorem own_failover (request : Request α) (servers : List Transport) (deployment : Deployment) :
    ((failover (submit request) servers).exec deployment).2.clients = deployment.clients ∧
      ((failover (submit request) servers).exec deployment).2.managers = deployment.managers := by
  have hkeeps : Keeps (fun after : Deployment =>
      after.clients = deployment.clients ∧ after.managers = deployment.managers)
        (failover (submit request) servers) := by
    refine .failover ?_
    intro server _ before hsame
    obtain ⟨hclients, hmanagers⟩ := own_submit request server before
    exact ⟨hclients.trans hsame.1, hmanagers.trans hsame.2⟩
  exact hkeeps deployment ⟨rfl, rfl⟩

/-- Of the records at most the dirty mark of a client's own changes when it sends it. -/
theorem managers_register (client : RegistryClient) (deployment : Deployment) :
    ((register client).exec deployment).2.managers =
      match ((register client).exec deployment).1 with
      | .ok () => deployment.managers.set client.manager
          ((deployment.managers.get client.manager).clearDirty
            (deployment.managers.get client.manager).record.lastDirty)
      | .error _ => deployment.managers := by
  let record := (deployment.managers.get client.manager).record
  have hmanagers := (own_failover (.register record) client.transports (deployment.note
    (.logged .info ("Registering " ++ record.display ++ " with the registry") []))).2
  unfold register
  rw [exec_bind, exec_getManager, exec_bind, exec_inform, exec_bind]
  dsimp only
  generalize (failover (submit (.register record)) client.transports).exec _ = sent
    at hmanagers ⊢
  obtain ⟨answer, after⟩ := sent
  change _ = deployment.managers at hmanagers
  rw [← hmanagers]
  cases answer <;> rfl

theorem lease_registerFirst (client : RegistryClient) (deployment : Deployment) :
    (((registerFirst client).exec deployment).2.managers.get client.manager).record.lease =
      (deployment.managers.get client.manager).record.lease := by
  have hmanagers := managers_register client deployment
  unfold registerFirst
  rw [exec_bind]
  generalize (register client).exec deployment = sent at hmanagers ⊢
  obtain ⟨answer, after⟩ := sent
  cases answer with
  | ok =>
      rw [exec_pure, hmanagers, Slots.get_set, if_pos rfl, InstanceManager.clearDirty,
        Instance.clearDirty]
      split <;> rfl
  | error error =>
      change (after.managers.get client.manager).record.lease = _
      rw [hmanagers]

theorem own_unregister (client : RegistryClient) (deployment : Deployment) :
    ((unregister client).exec deployment).2.clients = deployment.clients ∧
      ((unregister client).exec deployment).2.managers = deployment.managers := by
  let record := (deployment.managers.get client.manager).record
  have hsent := own_failover (.cancel record.app record.id) client.transports (deployment.note
    (.logged .info ("Unregistering " ++ record.display) []))
  unfold unregister
  rw [exec_bind, exec_getManager, exec_bind, exec_inform, exec_bind]
  generalize (failover (submit (.cancel record.app record.id)) client.transports).exec _ = sent
    at hsent ⊢
  obtain ⟨answer, after⟩ := sent
  cases answer <;> exact hsent

/-! ## Actions that have nothing to do with the list of clients -/

/-- The list of clients makes no difference to an action and is left as it is. -/
def IgnoresClients (action : Action α) : Prop :=
  ∀ deployment clients, action.exec { deployment with clients } =
    ((action.exec deployment).1, { (action.exec deployment).2 with clients })

namespace IgnoresClients

theorem pure (value : α) : IgnoresClients (Pure.pure value : Action α) := fun _ _ => rfl

theorem bind {action : Action α} {next : α → Action β} (haction : IgnoresClients action)
    (hnext : ∀ value, IgnoresClients (next value)) : IgnoresClients (action >>= next) := by
  intro deployment clients
  rw [exec_bind, exec_bind, haction]
  exact hnext _ _ _

theorem ite {condition : Prop} [Decidable condition] {first second : Action α}
    (hfirst : IgnoresClients first) (hsecond : IgnoresClients second) :
    IgnoresClients (if condition then first else second) := by
  split
  · exact hfirst
  · exact hsecond

theorem log (level : LogLevel) (message : String) (fields : List (String × String)) :
    IgnoresClients (Action.log level message fields) := fun _ _ => rfl

theorem exchange (proxy : Option HttpProxy) (url : Url) (call : HttpCall) :
    IgnoresClients (Action.exchange proxy url call) := by
  intro deployment clients
  unfold Action.exchange
  rw [exec_bind, exec_bind, exec_get, exec_get]
  dsimp only
  rw [exec_ite, exec_ite]
  split <;> rfl

theorem submit (request : Request α) (server : Transport) :
    IgnoresClients (Action.submit request server) := by
  cases server with
  | memory registry url => exact fun _ _ => rfl
  | remote server =>
      change IgnoresClients (Action.submitRemote server request)
      unfold Action.submitRemote
      split
      next => exact .pure _
      next url _ =>
        refine .bind (.exchange server.proxy url _) ?_
        intro reply
        cases reply <;> exact .pure _

theorem failover (request : Request α) (servers : List Transport) :
    IgnoresClients (MemberDiscovery.failover (Action.submit request) servers) := by
  have hrest : ∀ (attempted : Nat) (last : Option ClientError),
      IgnoresClients (Failover.askRest (Action.submit request) attempted last servers) := by
    induction servers with
    | nil =>
        intro attempted last
        cases last <;> exact .pure _
    | cons server rest ih =>
        intro attempted last
        refine .bind (.submit request server) ?_
        intro answer
        cases answer with
        | ok answer => exact .pure _
        | error error => exact .ite (.pure _) (ih _ _)
  exact hrest 0 none

theorem register (client : RegistryClient) : IgnoresClients (Action.register client) := by
  refine .bind (fun _ _ => rfl) ?_
  intro manager
  refine .bind (.log _ _ _) fun _ => .bind (.failover _ _) ?_
  intro answer
  cases answer with
  | ok => exact .bind (fun _ _ => rfl) fun _ => .pure _
  | error error => exact .pure _

theorem registerFirst (client : RegistryClient) :
    IgnoresClients (Action.registerFirst client) := by
  refine .bind (.register client) ?_
  intro answer
  cases answer with
  | ok => exact .pure _
  | error error => exact .log _ _ _

theorem clients_eq {action : Action α} (hignores : IgnoresClients action)
    (deployment : Deployment) : (action.exec deployment).2.clients = deployment.clients :=
  congrArg (fun result => result.2.clients) (hignores deployment deployment.clients)

end IgnoresClients

/-! ## Properties that last -/

/-- A property that depends neither on the network nor on what is noted, that requests to registries
in memory do not end, and that of records depends at most on who listens and on the application and
the id. -/
structure Lasting (P : Deployment → Prop) : Prop where
  network : ∀ deployment network trace, P deployment → P { deployment with network, trace }
  registry : ∀ {α : Type} deployment number (request : Request α), P deployment →
    P (deployment.setRegistry number
      ((deployment.registries.get number).submit deployment.clock request).2)
  manager : ∀ deployment number state,
    state.listeners = (deployment.managers.get number).listeners →
      state.record.app = (deployment.managers.get number).record.app →
        state.record.id = (deployment.managers.get number).record.id → P deployment →
          P (deployment.setManager number state)

/-- A property that depends neither on registries and records nor on the network and what is noted.
It may depend on who listens to a record. -/
structure Stable (P : Deployment → Prop) : Prop where
  network : ∀ deployment network trace, P deployment → P { deployment with network, trace }
  registry : ∀ deployment number state, P deployment → P (deployment.setRegistry number state)
  manager : ∀ deployment number state,
    state.listeners = (deployment.managers.get number).listeners → P deployment →
      P (deployment.setManager number state)

theorem Stable.lasting {P : Deployment → Prop} (hstable : Stable P) : Lasting P where
  network := hstable.network
  registry deployment number _ := hstable.registry deployment number _
  manager deployment number state hlisteners _ _ :=
    hstable.manager deployment number state hlisteners

/-- Clients and the listeners of a record have nothing to do with registries and requests. -/
theorem stable_listeners (manager : Nat) (clients : Slots Client) (listeners : Table Listener) :
    Stable fun deployment => deployment.clients = clients ∧
      (deployment.managers.get manager).listeners = listeners where
  network _ _ _ hsame := hsame
  registry _ _ _ hsame := hsame
  manager deployment number state hlisteners hsame := by
    refine ⟨hsame.1, ?_⟩
    rw [Deployment.managers_setManager, Slots.get_set]
    split
    next heq =>
      rw [hlisteners, ← heq]
      exact hsame.2
    next => exact hsame.2

namespace Lasting

variable {P : Deployment → Prop}

theorem log (hlasting : Lasting P) (level : LogLevel) (message : String)
    (fields : List (String × String)) : Keeps P (Action.log level message fields) :=
  .log (fun deployment => hlasting.network deployment deployment.network) level message fields

theorem failover (hlasting : Lasting P) (request : Request α) (servers : List Transport) :
    Keeps P (MemberDiscovery.failover (submit request) servers) := by
  refine .failover ?_
  intro server _
  cases server with
  | memory registry url => exact fun deployment => hlasting.registry deployment registry request
  | remote server => exact .submitRemote server request hlasting.network

theorem modifyManager (hlasting : Lasting P) {number : Nat}
    {change : Timestamp → InstanceManager → InstanceManager}
    (hlisteners : ∀ now manager, (change now manager).listeners = manager.listeners)
    (happ : ∀ now manager, (change now manager).record.app = manager.record.app)
    (hid : ∀ now manager, (change now manager).record.id = manager.record.id) :
    Keeps P (Action.modifyManager number change) := fun deployment =>
  hlasting.manager deployment number _ (hlisteners _ _) (happ _ _) (hid _ _)

theorem clearDirty (hlasting : Lasting P) (number : Nat) (sent : Timestamp) :
    Keeps P (Action.modifyManager number fun _ manager => manager.clearDirty sent) := by
  apply hlasting.modifyManager
  · exact fun _ _ => rfl
  · intro _ manager
    simp only [InstanceManager.clearDirty, Instance.clearDirty]
    split <;> rfl
  · intro _ manager
    simp only [InstanceManager.clearDirty, Instance.clearDirty]
    split <;> rfl

theorem register (hlasting : Lasting P) (client : RegistryClient) :
    Keeps P (Action.register client) := by
  refine .bind (fun _ hbefore => hbefore) ?_
  intro manager
  refine .bind (hlasting.log _ _ _) ?_
  intro _
  refine .bind (hlasting.failover _ _) ?_
  intro answer
  cases answer with
  | error error => exact .pure _
  | ok => exact .bind (hlasting.clearDirty _ _) fun _ => .pure _

theorem push (hlasting : Lasting P) (client : RegistryClient) (change : StatusChange) :
    Keeps P (Action.push client change) := by
  refine .ite (.pure _) (.bind (hlasting.register client) ?_)
  intro answer
  cases answer with
  | ok => exact .pure _
  | error error => exact hlasting.log _ _ _

theorem tell (hlasting : Lasting P) (change : StatusChange) (listener : Listener) :
    Keeps P (Action.tell change listener) := by
  cases listener with
  | observer tag =>
      exact .modify fun deployment => hlasting.network deployment deployment.network _
  | client number =>
      refine .get_bind ?_
      intro deployment hbefore
      cases hclient : deployment.clients.get number with
      | registry client => exact hlasting.push client change deployment hbefore
      | scripted client => exact hbefore

theorem setStatus (hlasting : Lasting P) (number : Nat) (status : InstanceStatus) :
    Keeps P (Action.setStatus number status) := by
  refine .get_bind ?_
  intro deployment hbefore
  have hset : P (deployment.restated number status) :=
    hlasting.manager deployment number _ (InstanceManager.setStatus_listeners _ _ _)
      (InstanceManager.setStatus_app _ _ _) (InstanceManager.setStatus_id _ _ _) hbefore
  revert hset
  unfold Deployment.restated
  cases hchange : ((deployment.managers.get number).setStatus deployment.clock status).1 with
  | none => simp [hchange]
  | some change =>
      simp only [hchange, exec_bind, exec_set]
      intro hset
      exact (Keeps.bind (hlasting.log _ _ _) fun _ =>
        Keeps.forM fun entry : String × Listener => hlasting.tell change entry.2) _ hset

theorem registerFirst (hlasting : Lasting P) (client : RegistryClient) :
    Keeps P (Action.registerFirst client) := by
  refine .bind (hlasting.register client) ?_
  intro answer
  cases answer with
  | ok => exact .pure _
  | error error => exact hlasting.log _ _ _

theorem renewLease (hlasting : Lasting P) (client : RegistryClient) :
    Keeps P (Action.renewLease client) := by
  refine .bind (fun _ hbefore => hbefore) ?_
  intro manager
  refine .bind (hlasting.failover _ _) ?_
  intro answer
  cases answer with
  | error error => exact .pure _
  | ok heartbeat =>
      cases heartbeat with
      | renewed => exact .pure _
      | notFound => exact .bind (hlasting.log _ _ _) fun _ => hlasting.register client

theorem renew (hlasting : Lasting P) (client : RegistryClient) : Keeps P (Action.renew client) :=
  .ite (.pure _) (hlasting.renewLease client)

theorem sendHeartbeat (hlasting : Lasting P) (client : RegistryClient) :
    Keeps P (Action.sendHeartbeat client) := by
  refine .bind (hlasting.renewLease client) ?_
  intro answer
  cases answer with
  | ok => exact .pure _
  | error error => exact hlasting.log _ _ _

theorem beat (hlasting : Lasting P) (number waited : Nat) :
    Keeps P (Action.beat number waited) := by
  refine .get_bind ?_
  intro deployment hbefore
  cases hclient : deployment.clients.get number with
  | scripted client => exact hbefore
  | registry client =>
      exact Keeps.ite (hlasting.sendHeartbeat client) (.pure _) deployment hbefore

theorem unregister (hlasting : Lasting P) (client : RegistryClient) :
    Keeps P (Action.unregister client) := by
  refine .bind (fun _ hbefore => hbefore) ?_
  intro manager
  refine .bind (hlasting.log _ _ _) ?_
  intro _
  refine .bind (hlasting.failover _ _) ?_
  intro answer
  cases answer with
  | ok => exact .pure _
  | error error => exact hlasting.log _ _ _

end Lasting

end Action

end MemberDiscovery
