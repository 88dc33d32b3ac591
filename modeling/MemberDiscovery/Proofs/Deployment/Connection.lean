import MemberDiscovery.Proofs.Deployment.Stability

/-! # The life of a client

A client that registers takes the place of the client that listened before, publishes at once and
then has a thread for heartbeats. Whether the publication succeeds does not matter to its making.
From then on it looks up applications, until it ends, stops its thread and takes its record back.
-/

namespace MemberDiscovery

namespace InstanceManager

/-- Clients listen under the one id that is theirs. There may be observers under every id. -/
def ClientsShareId (manager : InstanceManager) : Prop :=
  ∀ id number, manager.listeners.get? id = some (.client number) → id = Action.clientListenerId

/-- At most one client publishes the record. -/
theorem publishers_eq {manager : InstanceManager} (hshare : manager.ClientsShareId) :
    manager.publishers =
      ((manager.listeners.get? Action.clientListenerId).bind Listener.client?).toList := by
  refine Table.filterMap_toList manager.listeners ?_
  intro entry hmem hid
  obtain ⟨id, listener⟩ := entry
  cases listener with
  | observer tag => rfl
  | client number => exact absurd (hshare id number (Table.mem_entries_iff.mp hmem)) hid

theorem ClientsShareId.listen {manager : InstanceManager} (hshare : manager.ClientsShareId)
    (number : Nat) : (manager.listen Action.clientListenerId (.client number)).ClientsShareId := by
  intro id other hget
  simp only [InstanceManager.listen, Table.get?_insert] at hget
  split at hget
  next hid => exact hid
  next => exact hshare id other hget

/-- The client that listens last is the one that publishes. -/
theorem publishers_listen {manager : InstanceManager} (hshare : manager.ClientsShareId)
    (number : Nat) :
    (manager.listen Action.clientListenerId (.client number)).publishers = [number] := by
  rw [publishers_eq (hshare.listen number)]
  simp [InstanceManager.listen, Listener.client?]

/-- Where no client listens, none listens under another id. -/
theorem clientsShareId_of_publishers_eq_nil {manager : InstanceManager}
    (hpublishers : manager.publishers = []) : manager.ClientsShareId := by
  intro id number hget
  have hmem : number ∈ manager.publishers :=
    List.mem_filterMap.mpr ⟨(id, .client number), Table.mem_entries_iff.mpr hget, rfl⟩
  simp [hpublishers] at hmem

end InstanceManager

/-- A client that was just made for a record. It has a thread if it registers. -/
def RegistryClient.fresh (manager : Nat) (settings : ClientSettings) (transports : List Transport)
    (record : Instance) : RegistryClient where
  manager
  settings
  transports
  isShutDown := false
  heartbeat := if settings.registers then some (Action.heartbeatPause record.lease) else none

/-- A client that was just made and whose servers are all one registry in memory, by the service
URLs of its settings. -/
def RegistryClient.ofMemory (manager : Nat) (settings : ClientSettings) (registry : Nat)
    (record : Instance) : RegistryClient :=
  .fresh manager settings (settings.orderedUrls.map (.memory registry)) record

/-- The client once it has ended. -/
def RegistryClient.ended (client : RegistryClient) : RegistryClient :=
  { client with isShutDown := true, heartbeat := none }

@[simp] theorem RegistryClient.isShutDown_ended (client : RegistryClient) :
    client.ended.isShutDown = true := rfl

theorem RegistryClient.servedBy_ofMemory (manager : Nat) {settings : ClientSettings}
    (registry : Nat) (record : Instance) (hurls : settings.orderedUrls ≠ []) :
    (RegistryClient.ofMemory manager settings registry record).ServedBy registry := by
  refine ⟨by simpa [ofMemory, fresh] using hurls, ?_⟩
  intro server hmem
  obtain ⟨url, -, rfl⟩ := List.mem_map.mp hmem
  exact ⟨url, rfl⟩

/-- The deployment after a client was added that listens to its record. -/
def Deployment.connected (client : RegistryClient) (deployment : Deployment) : Deployment :=
  { deployment with
    clients := (deployment.clients.add (.registry client)).2
    managers := deployment.managers.set client.manager
      ((deployment.managers.get client.manager).listen Action.clientListenerId
        (.client deployment.clients.size)) }

namespace Deployment

/-- The client with a number keeps the record of a manager in a registry: it has not ended, and it
is the one client that publishes the record. -/
structure Attached (registry manager number : Nat) (deployment : Deployment) : Prop where
  client : ∃ client, deployment.clients.get number = .registry client ∧
    client.manager = manager ∧ client.ServedBy registry ∧ client.isShutDown = false
  publishers : (deployment.managers.get manager).publishers = [number]

namespace Attached

variable {registry manager number : Nat} {deployment after : Deployment}

theorem congr (hattached : deployment.Attached registry manager number)
    (hclients : after.clients = deployment.clients)
    (hlisteners : (after.managers.get manager).listeners =
      (deployment.managers.get manager).listeners) :
    after.Attached registry manager number where
  client := by rw [hclients]; exact hattached.client
  publishers := by
    rw [InstanceManager.publishers, hlisteners]
    exact hattached.publishers

theorem publication (hattached : deployment.Attached registry manager number)
    {answer : Except ClientError Unit}
    (hpublication : Publication registry manager deployment answer after) :
    after.Attached registry manager number := by
  cases hpublication with
  | taken trace => exact hattached.congr rfl (by simp)
  | refused error left trace => exact hattached.congr rfl rfl

theorem connected {settings : ClientSettings} (registry : Nat) (record : Instance)
    (hshare : (deployment.managers.get manager).ClientsShareId)
    (hurls : settings.orderedUrls ≠ []) :
    (deployment.connected (.ofMemory manager settings registry record)).Attached registry manager
      deployment.clients.size where
  client := by
    refine ⟨.ofMemory manager settings registry record, ?_, rfl,
      RegistryClient.servedBy_ofMemory manager registry record hurls, rfl⟩
    simp [Deployment.connected]
  publishers := by
    simp only [Deployment.connected, RegistryClient.ofMemory, RegistryClient.fresh, Slots.get_set,
      if_pos]
    exact InstanceManager.publishers_listen hshare _

end Attached

/-- The deployment after a client has ended and before its record is taken back. -/
def disconnected (number : Nat) (client : RegistryClient) (deployment : Deployment) : Deployment :=
  ((deployment.setClient number (.registry client.ended)).note
    (.logged .info "Shutting down registry client" [])).setManager client.manager
      ((deployment.managers.get client.manager).unlisten Action.clientListenerId)

/-- The deployment after a client was closed and before its thread has stopped. -/
def closed (number : Nat) (client : RegistryClient) (deployment : Deployment) : Deployment :=
  ((deployment.setClient number (.registry { client with isShutDown := true })).note
    (.logged .info "Shutting down registry client" [])).setManager client.manager
      ((deployment.managers.get client.manager).unlisten Action.clientListenerId)

theorem setClient_closed (number : Nat) (client : RegistryClient) (deployment : Deployment) :
    (deployment.closed number client).setClient number (.registry client.ended) =
      deployment.disconnected number client := by
  simp [closed, disconnected, setClient, setManager, note]

theorem record_disconnected (number : Nat) (client : RegistryClient) (deployment : Deployment) :
    ((deployment.disconnected number client).managers.get client.manager).record =
      (deployment.managers.get client.manager).record := by
  simp [disconnected, InstanceManager.unlisten]

end Deployment

namespace Action

variable {registry : Nat}

/-- The first publication of a client is one that may fail. -/
theorem exec_registerFirst {client : RegistryClient} (hserved : client.ServedBy registry)
    (deployment : Deployment) :
    ∃ answer, Deployment.Publication registry client.manager deployment answer
      ((registerFirst client).exec deployment).2 := by
  unfold registerFirst
  rw [exec_bind]
  have hpublication := exec_register hserved deployment
  cases hanswer : ((register client).exec deployment).1 with
  | ok =>
      rw [hanswer] at hpublication
      exact ⟨_, hpublication⟩
  | error error =>
      rw [hanswer] at hpublication
      exact ⟨_, hpublication.of_trace _⟩

/-- A client that registers listens to its record and publishes it. Its thread, which it only has
then, might have been there from the start. -/
theorem exec_beginRegistration (number : Nat) (client : RegistryClient) (deployment : Deployment) :
    (beginRegistration number client).exec deployment =
      (registerFirst client).exec ((deployment.setManager client.manager
        ((deployment.managers.get client.manager).listen clientListenerId
          (.client number))).setClient number (.registry { client with
            heartbeat := some (heartbeatPause
              (deployment.managers.get client.manager).record.lease) })) := by
  let listening := deployment.setManager client.manager
    ((deployment.managers.get client.manager).listen clientListenerId (.client number))
  have hlease : (((registerFirst client).exec listening).2.managers.get
      client.manager).record.lease = (deployment.managers.get client.manager).record.lease := by
    rw [lease_registerFirst, Deployment.managers_setManager, Slots.get_set, if_pos rfl]
    rfl
  have hclients := (IgnoresClients.registerFirst client).clients_eq listening
  rw [Deployment.setClient, IgnoresClients.registerFirst client listening, ← hclients, ← hlease]
  rfl

theorem mapM_connect_memory (settings : ClientSettings) (urls : List String) :
    urls.mapM ((TransportKind.memory registry).connect settings) =
      .ok (urls.map (.memory registry)) :=
  List.mapM_pure

theorem exec_connect_of_orderedUrls_eq_nil {settings : ClientSettings}
    (hurls : settings.orderedUrls = []) (manager : Nat) (kind : TransportKind)
    (deployment : Deployment) :
    (connect manager settings kind).exec deployment = (.error .noServiceUrls, deployment) := by
  simp [connect, connectWith, hurls]

theorem orderedUrls_ne_nil_of_exec_connect {settings : ClientSettings} {manager number : Nat}
    {kind : TransportKind} {deployment : Deployment}
    (hconnect : ((connect manager settings kind).exec deployment).1 = .ok number) :
    settings.orderedUrls ≠ [] := by
  intro hnil
  rw [exec_connect_of_orderedUrls_eq_nil hnil] at hconnect
  cases hconnect

theorem connectWith_connect (kind : TransportKind) (manager : Nat) (settings : ClientSettings) :
    connectWith kind.connect manager settings = connect manager settings kind := rfl

/-- If no client is made, nothing is changed. -/
theorem exec_connectWith_error {factory : TransportFactory} {manager : Nat}
    {settings : ClientSettings} {deployment : Deployment} {error : ClientError}
    (herror : ((connectWith factory manager settings).exec deployment).1 = .error error) :
    ((connectWith factory manager settings).exec deployment).2 = deployment := by
  unfold connectWith at herror ⊢
  dsimp only at herror ⊢
  rw [exec_ite] at herror ⊢
  split
  next => rfl
  next hurls =>
    rw [if_neg hurls] at herror
    cases htransports : settings.orderedUrls.mapM (factory settings) with
    | error refused => rfl
    | ok transports =>
        rw [htransports] at herror
        cases hregisters : settings.registers <;> simp [hregisters] at herror

/-- What the making of a client does if there are transports to all its servers. -/
theorem exec_connectWith {factory : TransportFactory} {settings : ClientSettings}
    {transports : List Transport} (hurls : settings.orderedUrls ≠ [])
    (htransports : settings.orderedUrls.mapM (factory settings) = .ok transports) (manager : Nat)
    (deployment : Deployment) :
    let client : RegistryClient :=
      .fresh manager settings transports (deployment.managers.get manager).record
    (connectWith factory manager settings).exec deployment =
      (.ok deployment.clients.size,
        if settings.registers then
          ((registerFirst client).exec (deployment.connected client)).2
        else (deployment.addClient (.registry client)).2) := by
  have hempty : settings.orderedUrls.isEmpty = false := by simpa using hurls
  unfold connectWith
  dsimp only
  rw [hempty, if_neg Bool.false_ne_true, htransports, exec_bind, exec_modifyGet]
  cases hregisters : settings.registers with
  | false =>
      rw [if_neg Bool.false_ne_true, if_neg Bool.false_ne_true, RegistryClient.fresh, hregisters]
      rfl
  | true =>
      rw [if_pos rfl, if_pos rfl, exec_bind, exec_beginRegistration, RegistryClient.fresh,
        hregisters]
      simp only [Deployment.addClient, Deployment.setManager, Deployment.setClient, Slots.fst_add,
        Slots.set_add]
      rfl

theorem of_connectWith {factory : TransportFactory} {manager number : Nat}
    {settings : ClientSettings} {before after : Deployment}
    (hconnect : (connectWith factory manager settings).exec before = (.ok number, after)) :
    settings.orderedUrls ≠ [] ∧ ∃ transports,
      settings.orderedUrls.mapM (factory settings) = .ok transports ∧
        let client : RegistryClient :=
          .fresh manager settings transports (before.managers.get manager).record
        number = before.clients.size ∧ after =
          if settings.registers then ((registerFirst client).exec (before.connected client)).2
          else (before.addClient (.registry client)).2 := by
  have hurls : settings.orderedUrls ≠ [] := by
    intro hnil
    simp [connectWith, hnil] at hconnect
  have hempty : settings.orderedUrls.isEmpty = false := by simpa using hurls
  cases htransports : settings.orderedUrls.mapM (factory settings) with
  | error error => simp [connectWith, hempty, htransports] at hconnect
  | ok transports =>
      rw [exec_connectWith hurls htransports] at hconnect
      obtain ⟨hnumber, hafter⟩ := Prod.mk.inj hconnect
      exact ⟨hurls, transports, rfl, (Except.ok.inj hnumber).symm, hafter.symm⟩

/-- A client that only looks up applications changes nothing but the list of clients. -/
theorem exec_connect_of_registers_eq_false {settings : ClientSettings}
    (hurls : settings.orderedUrls ≠ []) (hregisters : settings.registers = false) (manager : Nat)
    (deployment : Deployment) :
    (connect manager settings (.memory registry)).exec deployment =
      (.ok deployment.clients.size, (deployment.addClient (.registry (.ofMemory manager settings
        registry (deployment.managers.get manager).record))).2) := by
  rw [connect, exec_connectWith hurls (mapM_connect_memory settings settings.orderedUrls),
    hregisters, if_neg Bool.false_ne_true]
  rfl

/-- A client that registers is added, listens, and publishes. -/
theorem exec_connect_of_registers {settings : ClientSettings}
    (hurls : settings.orderedUrls ≠ []) (hregisters : settings.registers = true)
    (registry manager : Nat) (deployment : Deployment) :
    ((connect manager settings (.memory registry)).exec deployment).1 =
        .ok deployment.clients.size ∧
      ∃ answer, Deployment.Publication registry manager
        (deployment.connected (.ofMemory manager settings registry
          (deployment.managers.get manager).record)) answer
        ((connect manager settings (.memory registry)).exec deployment).2 := by
  rw [connect, exec_connectWith hurls (mapM_connect_memory settings settings.orderedUrls),
    hregisters, if_pos rfl]
  exact ⟨rfl, exec_registerFirst (RegistryClient.servedBy_ofMemory manager registry
    (deployment.managers.get manager).record hurls) _⟩

theorem connected_of_exec_connect {settings : ClientSettings} {manager number : Nat}
    {before after : Deployment} (hregisters : settings.registers = true)
    (hconnect : (connect manager settings (.memory registry)).exec before = (.ok number, after)) :
    settings.orderedUrls ≠ [] ∧ number = before.clients.size ∧
      ∃ answer, Deployment.Publication registry manager
        (before.connected (.ofMemory manager settings registry
          (before.managers.get manager).record)) answer after := by
  have hurls := orderedUrls_ne_nil_of_exec_connect (congrArg Prod.fst hconnect)
  obtain ⟨hnumber, answer, hpublication⟩ :=
    exec_connect_of_registers hurls hregisters registry manager before
  rw [hconnect] at hnumber hpublication
  cases hnumber
  exact ⟨hurls, rfl, answer, hpublication⟩

@[simp] theorem exec_close (number : Nat) (client : RegistryClient) (deployment : Deployment) :
    (close number client).exec deployment = ((), deployment.closed number client) := rfl

theorem exec_stopAndUnregister (number : Nat) (client : RegistryClient) (deployment : Deployment) :
    (stopAndUnregister number client).exec deployment =
      (if client.settings.registers then unregister client else pure ()).exec
        (deployment.setClient number (.registry client.ended)) := rfl

/-- A client that has ended is not asked. -/
theorem exec_lookup_of_isShutDown {number : Nat} {client : RegistryClient}
    {deployment : Deployment} (hclient : deployment.clients.get number = .registry client)
    (hended : client.isShutDown = true) (app : String) :
    (lookup number app).exec deployment = (.error .shutDown, deployment) := by
  rw [lookup, exec_bind, exec_get]
  dsimp only
  rw [hclient]
  dsimp only
  rw [lookupRegistry, if_pos hended]
  rfl

theorem exec_lookup_of_live {number : Nat} {client : RegistryClient} {deployment : Deployment}
    (hclient : deployment.clients.get number = .registry client)
    (hlive : client.isShutDown = false) (app : String) :
    (lookup number app).exec deployment =
      if client.settings.fetches then
        (failover (submit (.lookup app)) client.transports).exec deployment
      else (.ok none, deployment) := by
  rw [lookup, exec_bind, exec_get]
  dsimp only
  rw [hclient]
  dsimp only
  rw [lookupRegistry, hlive, if_neg Bool.false_ne_true]
  cases client.settings.fetches <;> rfl

theorem exec_lookup_of_fetches_eq_false {number : Nat} {client : RegistryClient}
    {deployment : Deployment} (hclient : deployment.clients.get number = .registry client)
    (hlive : client.isShutDown = false) (hfetches : client.settings.fetches = false)
    (app : String) :
    (lookup number app).exec deployment = (.ok none, deployment) := by
  rw [exec_lookup_of_live hclient hlive, hfetches, if_neg Bool.false_ne_true]

theorem exec_lookup_of_servedBy {number : Nat} {client : RegistryClient} {deployment : Deployment}
    (hclient : deployment.clients.get number = .registry client)
    (hserved : client.ServedBy registry) (hlive : client.isShutDown = false)
    (hfetches : client.settings.fetches = true) (app : String) :
    ∃ answer state,
      (lookup number app).exec deployment = (answer, deployment.setRegistry registry state) ∧
        Registry.Outcome deployment.clock (.lookup app) (deployment.registries.get registry)
          answer state := by
  rw [exec_lookup_of_live hclient hlive, if_pos hfetches]
  exact exec_failover_of_servedBy hserved (.lookup app) deployment

theorem exec_endRegistry_of_isShutDown {number : Nat} {client : RegistryClient}
    (hended : client.isShutDown = true) (deployment : Deployment) :
    (endRegistry number client).exec deployment = ((), deployment) := by
  rw [endRegistry, if_pos hended]
  rfl

/-- A client has ended, has no thread and does not listen any more before it takes its record
back. -/
theorem exec_endRegistry_of_live {number : Nat} {client : RegistryClient}
    (hlive : client.isShutDown = false) (deployment : Deployment) :
    (endRegistry number client).exec deployment =
      (if client.settings.registers then unregister client else pure ()).exec
        (deployment.disconnected number client) := by
  rw [endRegistry, hlive, if_neg Bool.false_ne_true, exec_bind, exec_close,
    exec_stopAndUnregister]
  dsimp only
  rw [Deployment.setClient_closed]

theorem exec_shutDown {number : Nat} {client : RegistryClient} {deployment : Deployment}
    (hclient : deployment.clients.get number = .registry client) :
    (shutDown number).exec deployment = (endRegistry number client).exec deployment := by
  rw [shutDown, exec_bind, exec_get]
  dsimp only
  rw [hclient]

/-- To let go of a client that registers is to end it. -/
theorem exec_release {number : Nat} {client : RegistryClient} {deployment : Deployment}
    (hclient : deployment.clients.get number = .registry client) :
    (release number).exec deployment = (endRegistry number client).exec deployment := by
  rw [release, exec_bind, exec_get]
  dsimp only
  rw [hclient]

theorem exec_shutDown_of_isShutDown {number : Nat} {client : RegistryClient}
    {deployment : Deployment} (hclient : deployment.clients.get number = .registry client)
    (hended : client.isShutDown = true) :
    (shutDown number).exec deployment = ((), deployment) := by
  rw [exec_shutDown hclient, exec_endRegistry_of_isShutDown hended]

theorem exec_shutDown_of_live {number : Nat} {client : RegistryClient} {deployment : Deployment}
    (hclient : deployment.clients.get number = .registry client)
    (hlive : client.isShutDown = false) :
    (shutDown number).exec deployment =
      (if client.settings.registers then unregister client else pure ()).exec
        (deployment.disconnected number client) := by
  rw [exec_shutDown hclient, exec_endRegistry_of_live hlive]

/-- The end of a client changes clients and listeners before it makes a request. -/
theorem own_shutDown {number : Nat} {client : RegistryClient} {deployment : Deployment}
    (hclient : deployment.clients.get number = .registry client)
    (hlive : client.isShutDown = false) :
    ((shutDown number).exec deployment).2.clients =
        (deployment.disconnected number client).clients ∧
      ((shutDown number).exec deployment).2.managers =
        (deployment.disconnected number client).managers := by
  rw [exec_shutDown_of_live hclient hlive]
  split
  · exact own_unregister client (deployment.disconnected number client)
  · exact ⟨rfl, rfl⟩

/-- A registry without scheduled failures gives the record of a client up. -/
theorem exec_unregister_of_servedBy {client : RegistryClient} {deployment : Deployment}
    (hserved : client.ServedBy registry)
    (hfailures : (deployment.registries.get registry).failures = []) :
    ∃ trace, (unregister client).exec deployment =
      ((), { deployment with
        registries := deployment.registries.set registry
          ((deployment.registries.get registry).accept deployment.clock
            (.cancel (deployment.managers.get client.manager).record.app
              (deployment.managers.get client.manager).record.id)).2
        trace }) := by
  let noted := deployment.note (.logged .info
    ("Unregistering " ++ (deployment.managers.get client.manager).record.display) [])
  obtain ⟨answer, state, hexec, houtcome⟩ := exec_failover_of_servedBy hserved
    (.cancel (deployment.managers.get client.manager).record.app
      (deployment.managers.get client.manager).record.id) noted
  obtain ⟨rfl, rfl⟩ := houtcome.eq_of_failures_eq_nil hfailures
  refine ⟨noted.trace, ?_⟩
  unfold unregister
  rw [exec_bind, exec_getManager, exec_bind, exec_inform, exec_bind, hexec]
  rfl

/-- A client that registered takes its record back when it ends, and listens no longer. -/
theorem exec_shutDown_of_servedBy {number : Nat} {client : RegistryClient} {deployment : Deployment}
    (hclient : deployment.clients.get number = .registry client)
    (hserved : client.ServedBy registry) (hlive : client.isShutDown = false)
    (hregisters : client.settings.registers = true)
    (hfailures : (deployment.registries.get registry).failures = []) :
    ∃ trace, (shutDown number).exec deployment =
      ((), { deployment with
        registries := deployment.registries.set registry
          ((deployment.registries.get registry).accept deployment.clock
            (.cancel (deployment.managers.get client.manager).record.app
              (deployment.managers.get client.manager).record.id)).2
        managers := deployment.managers.set client.manager
          ((deployment.managers.get client.manager).unlisten clientListenerId)
        clients := deployment.clients.set number (.registry client.ended)
        trace }) := by
  have hnone : ((deployment.disconnected number client).registries.get registry).failures = [] :=
    hfailures
  obtain ⟨trace, hunregister⟩ := exec_unregister_of_servedBy hserved hnone
  rw [Deployment.record_disconnected] at hunregister
  rw [exec_shutDown_of_live hclient hlive, if_pos hregisters]
  exact ⟨trace, hunregister⟩

end Action

end MemberDiscovery
