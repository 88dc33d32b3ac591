import MemberDiscovery.Proofs.Config.Checks
import MemberDiscovery.Proofs.Deployment.Connection
import MemberDiscovery.Proofs.Deployment.Stability

/-! # Who listens to a record

A deployment is sound if clients listen only under the id that is theirs and only to the record that
they were made for, and if the servers of a client are of one kind. All that a process can do keeps
a deployment sound. A client that was made has the settings and the servers that it was made from
(`Action.clients_of_connect`).
-/

namespace MemberDiscovery

/-- The servers of a client are one registry in memory or all remote. -/
def RegistryClient.Uniform (client : RegistryClient) : Prop :=
  (∃ registry, client.ServedBy registry) ∨
    ∀ server ∈ client.transports, ∃ remote, server = .remote remote

/-- A client as it is made. -/
structure RegistryClient.IsNew (client : RegistryClient) : Prop where
  uniform : client.Uniform
  live : client.isShutDown = false
  /-- It has a thread if it registers. -/
  thread : client.heartbeat.isSome = client.settings.registers

namespace Deployment

/-- A client listens to nothing but the record that it was made for. -/
structure Sound (deployment : Deployment) : Prop where
  listening : ∀ manager id number,
    (deployment.managers.get manager).listeners.get? id = some (.client number) →
      id = Action.clientListenerId ∧ number < deployment.clients.size ∧
        ∃ client, deployment.clients.get number = .registry client ∧ client.manager = manager
  uniform : ∀ number client, deployment.clients.get number = .registry client → client.Uniform

theorem sound_start (clock : Timestamp) (machine : Machine) (idSource : Nat → String) :
    (start clock machine idSource).Sound where
  listening manager id number hget := by
    cases hget
  uniform number client hclient := by
    cases hclient

namespace Sound

variable {deployment after : Deployment}

theorem congr (hsound : deployment.Sound) (hclients : after.clients = deployment.clients)
    (hlisteners : ∀ manager, (after.managers.get manager).listeners =
      (deployment.managers.get manager).listeners) : after.Sound where
  listening manager id number hget := by
    rw [hlisteners] at hget
    rw [hclients]
    exact hsound.listening manager id number hget
  uniform := by
    rw [hclients]
    exact hsound.uniform

/-- Who listens to a record may change if the clients among them are as they should be. -/
theorem setManager (hsound : deployment.Sound) {number : Nat} {state : InstanceManager}
    (hlisteners : ∀ id other, state.listeners.get? id = some (.client other) →
      (deployment.managers.get number).listeners.get? id = some (.client other) ∨
        id = Action.clientListenerId ∧ other < deployment.clients.size ∧
          ∃ client, deployment.clients.get other = .registry client ∧ client.manager = number) :
    (deployment.setManager number state).Sound where
  listening manager id other hget := by
    simp only [Deployment.managers_setManager, Slots.get_set] at hget ⊢
    split at hget
    next heq =>
      subst heq
      rcases hlisteners id other hget with hbefore | hlistens
      · exact hsound.listening _ id other hbefore
      · exact hlistens
    next => exact hsound.listening manager id other hget
  uniform := hsound.uniform

theorem update (hsound : deployment.Sound) {number : Nat} {state : InstanceManager}
    (hlisteners : state.listeners = (deployment.managers.get number).listeners) :
    (deployment.setManager number state).Sound := by
  apply hsound.setManager
  intro id other hget
  left
  rwa [← hlisteners]

/-- A client that listens to the record that it was made for. -/
theorem listen (hsound : deployment.Sound) {number : Nat} {client : RegistryClient}
    (hnumber : number < deployment.clients.size)
    (hclient : deployment.clients.get number = .registry client) :
    (deployment.setManager client.manager
      ((deployment.managers.get client.manager).listen Action.clientListenerId
        (.client number))).Sound := by
  apply hsound.setManager
  intro id other hget
  simp only [InstanceManager.listen, Table.get?_insert] at hget
  split at hget
  next hid =>
    cases hget
    exact .inr ⟨hid, hnumber, client, hclient, rfl⟩
  next => exact .inl hget

theorem unlisten (hsound : deployment.Sound) (number : Nat) (id : String) :
    (deployment.setManager number ((deployment.managers.get number).unlisten id)).Sound := by
  apply hsound.setManager
  intro other client hget
  simp only [InstanceManager.unlisten, Table.get?_erase] at hget
  split at hget
  next => cases hget
  next => exact .inl hget

theorem observe (hsound : deployment.Sound) (number : Nat) (id tag : String) :
    (deployment.setManager number
      ((deployment.managers.get number).listen id (.observer tag))).Sound := by
  apply hsound.setManager
  intro other client hget
  simp only [InstanceManager.listen, Table.get?_insert] at hget
  split at hget
  next => cases hget
  next => exact .inl hget

theorem addManager (hsound : deployment.Sound) {state : InstanceManager}
    (hlisteners : state.listeners = ∅) : (deployment.addManager state).2.Sound where
  listening manager id number hget := by
    simp only [Deployment.addManager, Slots.get_add] at hget
    split at hget
    next =>
      rw [hlisteners] at hget
      cases hget
    next => exact hsound.listening manager id number hget
  uniform := hsound.uniform

theorem addClient (hsound : deployment.Sound) {client : Client}
    (huniform : ∀ registered, client = .registry registered → registered.Uniform) :
    (deployment.addClient client).2.Sound where
  listening manager id number hget := by
    obtain ⟨hid, hnumber, found, hfound, hmanager⟩ := hsound.listening manager id number hget
    refine ⟨hid, Nat.lt_succ_of_lt hnumber, found, ?_, hmanager⟩
    simp only [Deployment.addClient, Slots.get_add, if_neg (Nat.ne_of_lt hnumber), hfound]
  uniform number found hfound := by
    simp only [Deployment.addClient, Slots.get_add] at hfound
    split at hfound
    next => exact huniform found hfound
    next => exact hsound.uniform number found hfound

/-- A client may change if it still belongs to the same record. -/
theorem setClient (hsound : deployment.Sound) {number : Nat} {state : Client}
    (hmanager : ∀ client, deployment.clients.get number = .registry client →
      ∃ changed, state = .registry changed ∧ changed.manager = client.manager)
    (huniform : ∀ changed, state = .registry changed → changed.Uniform) :
    (deployment.setClient number state).Sound where
  listening manager id other hget := by
    obtain ⟨hid, hother, client, hclient, hlistens⟩ := hsound.listening manager id other hget
    refine ⟨hid, hother, ?_⟩
    simp only [Deployment.clients_setClient, Slots.get_set]
    split
    next heq =>
      subst heq
      obtain ⟨changed, hchanged, hsame⟩ := hmanager client hclient
      exact ⟨changed, hchanged, hsame.trans hlistens⟩
    next => exact ⟨client, hclient, hlistens⟩
  uniform other client hclient := by
    simp only [Deployment.clients_setClient, Slots.get_set] at hclient
    split at hclient
    next => exact huniform client hclient
    next => exact hsound.uniform other client hclient

/-- A client may end, and its thread may start and stop. -/
theorem changeState (hsound : deployment.Sound) {number : Nat} {client : RegistryClient}
    (hclient : deployment.clients.get number = .registry client) (isShutDown : Bool)
    (heartbeat : Option Nat) :
    (deployment.setClient number
      (.registry { client with isShutDown, heartbeat })).Sound := by
  apply hsound.setClient
  · intro found hfound
    rw [hclient] at hfound
    cases hfound
    exact ⟨_, rfl, rfl⟩
  · intro changed hchanged
    cases hchanged
    exact hsound.uniform number client hclient

/-- A scripted client, to which no record is told, goes on. -/
theorem setScripted (hsound : deployment.Sound) {number : Nat} {client : ScriptedClient}
    (hclient : deployment.clients.get number = .scripted client) (next : ScriptedClient) :
    (deployment.setClient number (.scripted next)).Sound := by
  apply hsound.setClient
  · intro found hfound
    rw [hclient] at hfound
    cases hfound
  · intro changed hchanged
    cases hchanged

/-- A client is sound from the start, before it publishes. -/
theorem connected (hsound : deployment.Sound) {client : RegistryClient}
    (huniform : client.Uniform) : (deployment.connected client).Sound := by
  have hadded : (deployment.addClient (.registry client)).2.Sound :=
    hsound.addClient fun found hfound => by cases hfound; exact huniform
  exact hadded.listen (Nat.lt_succ_self _) (by simp [Deployment.addClient])

theorem disconnected (hsound : deployment.Sound) {number : Nat} {client : RegistryClient}
    (hclient : deployment.clients.get number = .registry client) :
    (deployment.disconnected number client).Sound :=
  ((hsound.changeState hclient true none).unlisten client.manager Action.clientListenerId).congr
    rfl fun _ => rfl

theorem clientsShareId (hsound : deployment.Sound) (manager : Nat) :
    (deployment.managers.get manager).ClientsShareId := fun id number hget =>
  (hsound.listening manager id number hget).1

theorem stable : Action.Stable Sound where
  network _ _ _ hsound := hsound.congr rfl fun _ => rfl
  registry _ _ _ hsound := hsound.congr rfl fun _ => rfl
  manager _ _ _ hlisteners hsound := hsound.update hlisteners

theorem lasting : Action.Lasting Sound :=
  stable.lasting

end Sound

end Deployment

namespace Action

open Deployment (Sound)

theorem keeps_shutDown {P : Deployment → Prop} (hlasting : Lasting P) {number : Nat}
    (hended : ∀ deployment client, deployment.clients.get number = .registry client →
      P deployment → P (deployment.disconnected number client)) : Keeps P (shutDown number) := by
  intro deployment hbefore
  cases hclient : deployment.clients.get number with
  | scripted client =>
      rw [shutDown, exec_bind, exec_get]
      dsimp only
      rw [hclient]
      exact hlasting.network deployment deployment.network _ hbefore
  | registry client =>
      cases hshutDown : client.isShutDown with
      | true =>
          rw [exec_shutDown_of_isShutDown hclient hshutDown]
          exact hbefore
      | false =>
          rw [exec_shutDown_of_live hclient hshutDown]
          exact Keeps.ite (hlasting.unregister client) (.pure _) _
            (hended deployment client hclient hbefore)

theorem keeps_sound_shutDown (number : Nat) : Keeps Sound (shutDown number) :=
  keeps_shutDown Sound.lasting fun _ _ hclient hsound => hsound.disconnected hclient

theorem mapM_cons_eq_ok {α β ε : Type} {f : α → Except ε β} {item : α} {rest : List α}
    {results : List β} (hmapM : (item :: rest).mapM f = .ok results) :
    ∃ first others, f item = .ok first ∧ rest.mapM f = .ok others ∧ results = first :: others := by
  rw [List.mapM_cons] at hmapM
  obtain ⟨first, hfirst, hmapM⟩ := bind_eq_ok_iff.mp hmapM
  obtain ⟨others, hothers, hresults⟩ := bind_eq_ok_iff.mp hmapM
  cases hresults
  exact ⟨first, others, hfirst, hothers, rfl⟩

theorem remote_of_mapM_connect {settings : ClientSettings} {urls : List String}
    {transports : List Transport}
    (htransports : urls.mapM (TransportKind.http.connect settings) = .ok transports) :
    ∀ server ∈ transports, ∃ remote, server = .remote remote := by
  induction urls generalizing transports with
  | nil =>
      cases htransports
      simp
  | cons url rest ih =>
      obtain ⟨first, others, hfirst, hothers, rfl⟩ := mapM_cons_eq_ok htransports
      intro server hmem
      rcases List.mem_cons.mp hmem with rfl | hmem
      · cases hremote : RemoteRegistry.ofUrl settings url with
        | error error => simp [TransportKind.connect, hremote, Except.map] at hfirst
        | ok remote =>
            simp only [TransportKind.connect, hremote, Except.map, Except.ok.injEq] at hfirst
            exact ⟨remote, hfirst.symm⟩
      · exact ih hothers server hmem

theorem uniform_of_mapM_connect {kind : TransportKind} {client : RegistryClient}
    {urls : List String} (hurls : urls ≠ [])
    (htransports : urls.mapM (kind.connect client.settings) = .ok client.transports) :
    client.Uniform := by
  cases kind with
  | memory registry =>
      left
      rw [mapM_connect_memory, Except.ok.injEq] at htransports
      refine ⟨registry, ?_, ?_⟩
      · rw [← htransports]
        simpa using hurls
      · intro server hmem
        rw [← htransports] at hmem
        obtain ⟨url, -, rfl⟩ := List.mem_map.mp hmem
        exact ⟨url, rfl⟩
  | http =>
      right
      exact remote_of_mapM_connect htransports

theorem isNew_fresh {kind : TransportKind} {settings : ClientSettings}
    {transports : List Transport} (hurls : settings.orderedUrls ≠ [])
    (htransports : settings.orderedUrls.mapM (kind.connect settings) = .ok transports)
    (manager : Nat) (record : Instance) :
    (RegistryClient.fresh manager settings transports record).IsNew where
  uniform := uniform_of_mapM_connect hurls htransports
  live := rfl
  thread := by
    rw [RegistryClient.fresh]
    cases settings.registers <;> rfl

/-- A client that is made is like all new clients, and if it registers it listens and publishes. -/
theorem keeps_connect {P : Deployment → Prop} (hlasting : Lasting P)
    (hadded : ∀ deployment client, client.IsNew → client.settings.registers = false →
      P deployment → P (deployment.addClient (.registry client)).2)
    (hconnected : ∀ deployment client, client.IsNew → client.settings.registers = true →
      P deployment → P (deployment.connected client))
    (manager : Nat) (settings : ClientSettings) (kind : TransportKind) :
    Keeps P (connect manager settings kind) := by
  intro deployment hbefore
  cases hconnect : (connect manager settings kind).exec deployment with
  | mk answer after =>
      cases answer with
      | error error =>
          have hafter := exec_connectWith_error (congrArg Prod.fst hconnect)
          rw [connectWith_connect, hconnect] at hafter
          rw [hafter]
          exact hbefore
      | ok number =>
          obtain ⟨hurls, transports, htransports, -, rfl⟩ := of_connectWith hconnect
          have hnew :=
            isNew_fresh hurls htransports manager (deployment.managers.get manager).record
          dsimp only
          split
          next hregisters =>
            exact hlasting.registerFirst _ _ (hconnected deployment _ hnew hregisters hbefore)
          next hregisters =>
            exact hadded deployment _ hnew (Bool.eq_false_iff.mpr hregisters) hbefore

theorem keeps_sound_connect (manager : Nat) (settings : ClientSettings) (kind : TransportKind) :
    Keeps Sound (connect manager settings kind) := by
  refine keeps_connect Sound.lasting ?_ ?_ manager settings kind
  · intro deployment client hnew _ hsound
    exact hsound.addClient fun found hfound => by cases hfound; exact hnew.uniform
  · intro deployment client hnew _ hsound
    exact hsound.connected hnew.uniform

/-! ## The client that is made -/

/-- A client that was connected is new, has its settings and the transports of its kind, and has a
thread if it registers. -/
theorem clients_of_connect {manager number : Nat} {settings : ClientSettings}
    {kind : TransportKind} {before after : Deployment}
    (hconnect : (connect manager settings kind).exec before = (.ok number, after)) :
    settings.orderedUrls ≠ [] ∧ number = before.clients.size ∧ ∃ transports,
      settings.orderedUrls.mapM (kind.connect settings) = .ok transports ∧
        after.clients = (before.clients.add (.registry
          (.fresh manager settings transports (before.managers.get manager).record))).2 := by
  obtain ⟨hurls, transports, htransports, hnumber, rfl⟩ := of_connectWith hconnect
  refine ⟨hurls, hnumber, transports, htransports, ?_⟩
  split
  · exact (IgnoresClients.registerFirst _).clients_eq _
  · rfl

theorem client_of_connect {manager number : Nat} {settings : ClientSettings}
    {kind : TransportKind} {before after : Deployment}
    (hconnect : (connect manager settings kind).exec before = (.ok number, after)) :
    settings.orderedUrls ≠ [] ∧ ∃ transports,
      settings.orderedUrls.mapM (kind.connect settings) = .ok transports ∧
        after.clients.get number =
          .registry (.fresh manager settings transports (before.managers.get manager).record) := by
  obtain ⟨hurls, rfl, transports, htransports, hclients⟩ := clients_of_connect hconnect
  exact ⟨hurls, transports, htransports, by simp [hclients]⟩

/-- A client that registers, whatever its servers are, listens in the place of the one before. -/
theorem listeners_of_connect {manager number : Nat} {settings : ClientSettings}
    {kind : TransportKind} {before after : Deployment} (hregisters : settings.registers = true)
    (hconnect : (connect manager settings kind).exec before = (.ok number, after)) :
    (after.managers.get manager).listeners =
      ((before.managers.get manager).listen clientListenerId (.client number)).listeners := by
  obtain ⟨-, transports, -, rfl, rfl⟩ := of_connectWith hconnect
  let connected := before.connected
    (.fresh manager settings transports (before.managers.get manager).record)
  have hlisteners : (connected.managers.get manager).listeners =
      ((before.managers.get manager).listen clientListenerId
        (.client before.clients.size)).listeners := by
    simp [connected, Deployment.connected, RegistryClient.fresh]
  have hlasting := (stable_listeners manager connected.clients
    (connected.managers.get manager).listeners).lasting
  rw [if_pos hregisters, ← hlisteners]
  exact (hlasting.registerFirst _ connected ⟨rfl, rfl⟩).2

/-- The making of a client that does not register changes nothing but the list of clients. -/
theorem eq_addClient_of_connect {manager number : Nat} {settings : ClientSettings}
    {kind : TransportKind} {before after : Deployment} (hregisters : settings.registers = false)
    (hconnect : (connect manager settings kind).exec before = (.ok number, after)) :
    number = before.clients.size ∧ ∃ transports,
      after = (before.addClient (.registry
        (.fresh manager settings transports (before.managers.get manager).record))).2 := by
  obtain ⟨-, transports, -, hnumber, rfl⟩ := of_connectWith hconnect
  refine ⟨hnumber, transports, ?_⟩
  rw [hregisters, if_neg Bool.false_ne_true]

end Action

end MemberDiscovery
