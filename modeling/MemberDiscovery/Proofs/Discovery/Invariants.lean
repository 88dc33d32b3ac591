import MemberDiscovery.Proofs.Discovery.Reachability

/-! # Invariants of a process

As long as a process runs, a registry holds every record at most once, a client that speaks to a
registry stays the client that it was until it ends, and it has a thread for heartbeats just as long
as it registers and has not ended (`Deployment.Reachable.threaded`). The only client of a record is
told of its changes until it ends, unless somebody else takes its place among the listeners
(`Deployment.Told.run`).
-/

namespace MemberDiscovery

namespace Deployment

/-- No registry holds a record twice. -/
def Distinct (deployment : Deployment) : Prop :=
  ∀ number, (deployment.registries.get number).Distinct

theorem Distinct.setRegistry {deployment : Deployment} (hdistinct : deployment.Distinct)
    (number : Nat) {state : Registry} (hstate : state.Distinct) :
    (deployment.setRegistry number state).Distinct := by
  intro other
  simp only [registries_setRegistry, Slots.get_set]
  split
  next => exact hstate
  next => exact hdistinct other

theorem distinct_invariant : Invariant Distinct where
  surroundings _ _ _ _ _ _ _ _ _ hdistinct := hdistinct
  registry _ number request hdistinct :=
    hdistinct.setRegistry number (.submit (hdistinct number) _ _)
  intervene deployment intervention hdistinct := by
    cases intervention with
    | store number record => exact hdistinct.setRegistry number (.store (hdistinct number) record)
    | evict number app id => exact hdistinct.setRegistry number (.evict (hdistinct number) app id)
    | scheduleFailure number error =>
        exact hdistinct.setRegistry number (.congr (hdistinct number) rfl)
  addRegistry deployment hdistinct number := by
    simp only [Deployment.addRegistry, Slots.get_add]
    split
    next => exact Registry.distinct_empty
    next => exact hdistinct number
  record _ _ _ _ hdistinct := hdistinct
  addManager _ _ _ hdistinct := hdistinct
  addScripted _ _ hdistinct := hdistinct
  added _ _ _ _ hdistinct := hdistinct
  connected _ _ _ _ hdistinct := hdistinct
  disconnected _ _ _ _ hdistinct := hdistinct
  answered _ _ _ _ _ hdistinct := hdistinct
  observe _ _ _ _ hdistinct := hdistinct
  unlisten _ _ _ hdistinct := hdistinct

theorem Reachable.distinct {deployment : Deployment} (hreachable : deployment.Reachable) :
    deployment.Distinct :=
  distinct_invariant.reachable (fun _ _ _ _ => Registry.distinct_empty) hreachable

/-! ## Clients -/

/-- A property of the clients that a process has made, whatever else there is. -/
theorem invariant_of_clients {P : Slots Client → Prop}
    (hscripted : ∀ clients client, P clients → P (clients.add (.scripted client)).2)
    (hnew : ∀ clients client, client.IsNew → P clients → P (clients.add (.registry client)).2)
    (hended : ∀ clients number client, clients.get number = .registry client → P clients →
      P (clients.set number (.registry client.ended)))
    (hanswered : ∀ clients number client next, clients.get number = .scripted client →
      P clients → P (clients.set number (.scripted next))) :
    Invariant fun deployment => P deployment.clients where
  surroundings _ _ _ _ _ _ _ _ _ hclients := hclients
  registry _ _ _ hclients := hclients
  intervene _ intervention hclients := by
    cases intervention <;> exact hclients
  addRegistry _ hclients := hclients
  record _ _ _ _ hclients := hclients
  addManager _ _ _ hclients := hclients
  addScripted deployment client hclients := hscripted deployment.clients client hclients
  added deployment client hclient _ hclients := hnew deployment.clients client hclient hclients
  connected deployment client hclient _ hclients := hnew deployment.clients client hclient hclients
  disconnected deployment number client hclient hclients :=
    hended deployment.clients number client hclient hclients
  answered deployment number client next hclient hclients :=
    hanswered deployment.clients number client next hclient hclients
  observe _ _ _ _ hclients := hclients
  unlisten _ _ _ hclients := hclients

/-- The client with a number is a given one, or the same after it has ended. -/
def HasClient (number : Nat) (client : RegistryClient) (deployment : Deployment) : Prop :=
  number < deployment.clients.size ∧
    (deployment.clients.get number = .registry client ∨
      deployment.clients.get number = .registry client.ended)

theorem hasClient_invariant (number : Nat) (client : RegistryClient) :
    Invariant (HasClient number client) := by
  refine invariant_of_clients (P := fun clients => number < clients.size ∧
    (clients.get number = .registry client ∨ clients.get number = .registry client.ended))
    ?_ ?_ ?_ ?_
  · intro clients other ⟨hnumber, hclient⟩
    exact ⟨Nat.lt_succ_of_lt hnumber, by simpa [Nat.ne_of_lt hnumber] using hclient⟩
  · intro clients other _ ⟨hnumber, hclient⟩
    exact ⟨Nat.lt_succ_of_lt hnumber, by simpa [Nat.ne_of_lt hnumber] using hclient⟩
  · intro clients other ended hother ⟨hnumber, hclient⟩
    refine ⟨hnumber, ?_⟩
    by_cases hsame : number = other
    · subst hsame
      rw [hother, Client.registry.injEq, Client.registry.injEq] at hclient
      right
      rcases hclient with rfl | rfl <;> simp [RegistryClient.ended]
    · simpa [hsame] using hclient
  · intro clients other scripted next hother ⟨hnumber, hclient⟩
    refine ⟨hnumber, ?_⟩
    have hdiffers : number ≠ other := by
      rintro rfl
      simp [hother] at hclient
    simpa [hdiffers] using hclient

/-- A client has a thread for heartbeats as long as it registers and has not ended. -/
def Threaded (deployment : Deployment) : Prop :=
  ∀ number client, deployment.clients.get number = .registry client →
    client.heartbeat.isSome = (client.settings.registers && !client.isShutDown)

theorem threaded_invariant : Invariant Threaded := by
  refine invariant_of_clients (P := fun clients => ∀ number client,
    clients.get number = .registry client →
      client.heartbeat.isSome = (client.settings.registers && !client.isShutDown)) ?_ ?_ ?_ ?_
  · intro clients scripted hclients number client hclient
    rw [Slots.get_add] at hclient
    split at hclient
    next => cases hclient
    next => exact hclients number client hclient
  · intro clients made hnew hclients number client hclient
    rw [Slots.get_add] at hclient
    split at hclient
    next =>
      obtain rfl := Client.registry.inj hclient
      rw [hnew.thread, hnew.live, Bool.not_false, Bool.and_true]
    next => exact hclients number client hclient
  · intro clients other ended _ hclients number client hclient
    rw [Slots.get_set] at hclient
    split at hclient
    next =>
      obtain rfl := Client.registry.inj hclient
      exact (Bool.and_false _).symm
    next => exact hclients number client hclient
  · intro clients other scripted next _ hclients number client hclient
    rw [Slots.get_set] at hclient
    split at hclient
    next => cases hclient
    next => exact hclients number client hclient

theorem Reachable.threaded {deployment : Deployment} (hreachable : deployment.Reachable) :
    deployment.Threaded :=
  threaded_invariant.reachable (fun _ _ _ _ _ hclient => nomatch hclient) hreachable

theorem Reachable.thread_of_live {deployment : Deployment} (hreachable : deployment.Reachable)
    {number : Nat} {client : RegistryClient}
    (hclient : deployment.clients.get number = .registry client)
    (hlive : client.isShutDown = false) :
    client.heartbeat.isSome = client.settings.registers := by
  rw [hreachable.threaded number client hclient, hlive, Bool.not_false, Bool.and_true]

/-- Only numbers of clients that were made stand for clients that speak to a registry. -/
def Counted (deployment : Deployment) : Prop :=
  ∀ number client, deployment.clients.get number = .registry client →
    number < deployment.clients.size

theorem counted_invariant : Invariant Counted := by
  refine invariant_of_clients (P := fun clients => ∀ number client,
    clients.get number = .registry client → number < clients.size) ?_ ?_ ?_ ?_
  · intro clients scripted hclients number client hclient
    rw [Slots.get_add] at hclient
    split at hclient
    next => cases hclient
    next => exact Nat.lt_succ_of_lt (hclients number client hclient)
  · intro clients made _ hclients number client hclient
    rw [Slots.get_add] at hclient
    split at hclient
    next hlast => exact hlast ▸ Nat.lt_succ_self _
    next => exact Nat.lt_succ_of_lt (hclients number client hclient)
  · intro clients other ended hother hclients number client hclient
    rw [Slots.get_set] at hclient
    split at hclient
    next hsame => exact hsame ▸ hclients other ended hother
    next => exact hclients number client hclient
  · intro clients other scripted next _ hclients number client hclient
    rw [Slots.get_set] at hclient
    split at hclient
    next => cases hclient
    next => exact hclients number client hclient

theorem Reachable.counted {deployment : Deployment} (hreachable : deployment.Reachable) :
    deployment.Counted :=
  counted_invariant.reachable (fun _ _ _ _ _ hclient => nomatch hclient) hreachable

/-! ## The only client of a record -/

/-- No other client was made for the record of a manager. -/
def OnlyClient (manager number : Nat) (deployment : Deployment) : Prop :=
  ∀ other client, other < deployment.clients.size →
    deployment.clients.get other = .registry client → client.manager = manager → other = number

/-- The client with a number listens to the record of a manager. -/
def Listens (manager number : Nat) (deployment : Deployment) : Prop :=
  (deployment.managers.get manager).listeners.get? Action.clientListenerId = some (.client number)

instance (manager number : Nat) (deployment : Deployment) :
    Decidable (deployment.Listens manager number) :=
  inferInstanceAs (Decidable (_ = _))

/-- A client that registers is told of changes of a record, as long as it has not ended and no other
client was made for the record. -/
structure Told (manager number : Nat) (deployment : Deployment) : Prop where
  counted : deployment.Counted
  manager_lt : manager < deployment.managers.size
  client : ∃ client, deployment.clients.get number = .registry client
  listens : ∀ client, deployment.clients.get number = .registry client →
    client.settings.registers = true → client.isShutDown = false →
      deployment.OnlyClient manager number → deployment.Listens manager number

namespace Told

variable {manager number : Nat} {deployment after : Deployment}

/-- Clients may be added and may end. Another may listen in the place of the clients when the client
has ended or is not the only one any more. -/
theorem transfer (htold : deployment.Told manager number) (hcounted : after.Counted)
    (hmanagers : deployment.managers.size ≤ after.managers.size)
    (hkept : ∀ other client, deployment.clients.get other = .registry client →
      ∃ kept, after.clients.get other = .registry kept ∧ kept.manager = client.manager ∧
        (kept.isShutDown = false → kept = client))
    (hlisteners : (∃ client, after.clients.get number = .registry client ∧
        client.isShutDown = false) → after.OnlyClient manager number →
      (after.managers.get manager).listeners.get? Action.clientListenerId =
        (deployment.managers.get manager).listeners.get? Action.clientListenerId) :
    after.Told manager number where
  counted := hcounted
  manager_lt := Nat.lt_of_lt_of_le htold.manager_lt hmanagers
  client := by
    obtain ⟨client, hclient⟩ := htold.client
    obtain ⟨kept, hafter, -⟩ := hkept number client hclient
    exact ⟨kept, hafter⟩
  listens later hlater hregisters hlive honly := by
    obtain ⟨client, hclient⟩ := htold.client
    obtain ⟨kept, hafter, -, hsame⟩ := hkept number client hclient
    rw [hlater, Client.registry.injEq] at hafter
    subst hafter
    obtain rfl := hsame hlive
    rw [Listens, hlisteners ⟨_, hlater, hlive⟩ honly]
    refine htold.listens _ hclient hregisters hlive ?_
    intro other found _ hfound hmanager
    obtain ⟨kept, hafter, hlater, -⟩ := hkept other found hfound
    exact honly other kept (hcounted other kept hafter) hafter (hlater.trans hmanager)

/-- What neither makes nor ends a client nor is about the listeners of the record. -/
theorem congr (htold : deployment.Told manager number)
    (hmanagers : deployment.managers.size ≤ after.managers.size)
    (hclients : after.clients = deployment.clients)
    (hlisteners : (after.managers.get manager).listeners.get? Action.clientListenerId =
      (deployment.managers.get manager).listeners.get? Action.clientListenerId) :
    after.Told manager number := by
  refine htold.transfer ?_ hmanagers ?_ fun _ _ => hlisteners
  · rw [Counted, hclients]
    exact htold.counted
  · intro other client hclient
    exact ⟨client, hclients ▸ hclient, rfl, fun _ => rfl⟩

/-- A client may be made, for the same record too. -/
theorem of_added (htold : deployment.Told manager number) {added : Client}
    (hclients : after.clients = (deployment.clients.add added).2) (hcounted : after.Counted)
    (hmanagers : deployment.managers.size ≤ after.managers.size)
    (hlisteners : after.OnlyClient manager number →
      (after.managers.get manager).listeners.get? Action.clientListenerId =
        (deployment.managers.get manager).listeners.get? Action.clientListenerId) :
    after.Told manager number := by
  refine htold.transfer hcounted hmanagers ?_ fun _ => hlisteners
  intro other client hclient
  refine ⟨client, ?_, rfl, fun _ => rfl⟩
  -- A new client takes a number that no other has.
  rw [hclients, Slots.get_add, if_neg (Nat.ne_of_lt (htold.counted other client hclient))]
  exact hclient

theorem connected (htold : deployment.Told manager number) {made : RegistryClient}
    (hnew : made.IsNew) (hregisters : made.settings.registers = true) :
    (deployment.connected made).Told manager number := by
  refine htold.of_added rfl
    (counted_invariant.connected deployment made hnew hregisters htold.counted) (Nat.le_refl _) ?_
  intro honly
  simp only [Deployment.connected, Slots.get_set]
  split
  next heq =>
    -- The new client was made for the record, too.
    obtain ⟨client, hclient⟩ := htold.client
    have hlast : deployment.clients.size = number :=
      honly _ made (Nat.lt_succ_self _) (by simp [Deployment.connected]) heq.symm
    exact absurd (htold.counted number client hclient) (by omega)
  next => rfl

theorem disconnected (htold : deployment.Told manager number) {other : Nat}
    {ended : RegistryClient} (hother : deployment.clients.get other = .registry ended) :
    (deployment.disconnected other ended).Told manager number := by
  have hfound : (deployment.disconnected other ended).clients.get other =
      .registry ended.ended := by simp [Deployment.disconnected, note]
  refine htold.transfer
    (counted_invariant.disconnected deployment other ended hother htold.counted)
    (Nat.le_refl _) ?_ ?_
  · intro found client hclient
    by_cases hsame : found = other
    · subst hsame
      rw [hother, Client.registry.injEq] at hclient
      subst hclient
      exact ⟨ended.ended, hfound, rfl, fun hlive => by cases hlive⟩
    · refine ⟨client, ?_, rfl, fun _ => rfl⟩
      simpa [Deployment.disconnected, note, hsame] using hclient
  · intro hopen honly
    obtain ⟨client, hclient, hlive⟩ := hopen
    simp only [Deployment.disconnected, managers_setManager, Slots.get_set]
    split
    next heq =>
      -- Only the client itself was made for the record, and it has ended now.
      obtain rfl := honly other ended.ended (htold.counted other ended hother) hfound heq.symm
      rw [hfound, Client.registry.injEq] at hclient
      subst hclient
      cases hlive
    next => rfl

theorem answered (htold : deployment.Told manager number) {other : Nat}
    {scripted : ScriptedClient} (hother : deployment.clients.get other = .scripted scripted)
    (next : ScriptedClient) :
    (deployment.setClient other (.scripted next)).Told manager number := by
  refine htold.transfer
    (counted_invariant.answered deployment other scripted next hother htold.counted)
    (Nat.le_refl _) ?_ fun _ _ => rfl
  intro found client hclient
  refine ⟨client, ?_, rfl, fun _ => rfl⟩
  rw [clients_setClient, Slots.get_set]
  split
  next heq =>
    rw [heq, hother] at hclient
    cases hclient
  next => exact hclient

theorem steady : Steady (Told manager number) where
  surroundings _ _ _ _ _ _ _ _ _ htold := htold.congr (Nat.le_refl _) rfl rfl
  registry _ _ _ htold := htold.congr (Nat.le_refl _) rfl rfl
  intervene _ intervention htold := by
    cases intervention <;> exact htold.congr (Nat.le_refl _) rfl rfl
  addRegistry _ htold := htold.congr (Nat.le_refl _) rfl rfl
  record _ other state hlisteners htold := by
    refine htold.congr (Nat.le_refl _) rfl ?_
    rw [managers_setManager, Slots.get_set]
    split
    next heq => rw [hlisteners, heq]
    next => rfl
  addManager deployment state _ htold := by
    refine htold.congr (Nat.le_succ _) rfl ?_
    rw [Deployment.addManager, Slots.get_add, if_neg (Nat.ne_of_lt htold.manager_lt)]
  addScripted deployment scripted htold :=
    htold.of_added rfl (counted_invariant.addScripted deployment scripted htold.counted)
      (Nat.le_refl _) fun _ => rfl
  added deployment made hnew hquiet htold :=
    htold.of_added rfl (counted_invariant.added deployment made hnew hquiet htold.counted)
      (Nat.le_refl _) fun _ => rfl
  connected _ _ hnew hregisters htold := htold.connected hnew hregisters
  disconnected _ _ _ hother htold := htold.disconnected hother
  answered _ _ _ next hother htold := htold.answered hother next

end Told

end Deployment

/-- A step leaves the place of the clients among the listeners of a record alone, except by making
and ending clients. -/
def ProcessStep.Spares (manager : Nat) : ProcessStep → Prop
  | .observe other id _ | .unlisten other id => other = manager → id ≠ Action.clientListenerId
  | _ => True

namespace Deployment.Told

variable {manager number : Nat} {deployment : Deployment}

theorem after (htold : deployment.Told manager number) {step : ProcessStep}
    (hspares : step.Spares manager) : (step.after deployment).Told manager number := by
  apply steady.after htold
  intro hlistener
  cases step with
  | observe other id tag =>
      refine htold.congr (Nat.le_refl _) rfl ?_
      simp only [ProcessStep.after, managers_setManager, Slots.get_set]
      split
      next heq =>
        rw [InstanceManager.listen, Table.get?_insert, if_neg (hspares heq.symm).symm, heq]
      next => rfl
  | unlisten other id =>
      refine htold.congr (Nat.le_refl _) rfl ?_
      simp only [ProcessStep.after, managers_setManager, Slots.get_set]
      split
      next heq =>
        rw [InstanceManager.unlisten, Table.get?_erase, if_neg (hspares heq.symm).symm, heq]
      next => rfl
  | _ => exact hlistener.elim

theorem run (htold : deployment.Told manager number) {steps : List ProcessStep}
    (hspares : ∀ step ∈ steps, step.Spares manager) :
    (steps.foldl ProcessStep.after deployment).Told manager number := by
  induction steps generalizing deployment with
  | nil => exact htold
  | cons step rest ih =>
      exact ih (htold.after (hspares step List.mem_cons_self))
        fun other hmem => hspares other (List.mem_cons_of_mem _ hmem)

end Deployment.Told

/-- Managers are never given up. -/
theorem Deployment.manager_invariant (manager : Nat) :
    Invariant fun deployment => manager < deployment.managers.size where
  surroundings _ _ _ _ _ _ _ _ _ hmanager := hmanager
  registry _ _ _ hmanager := hmanager
  intervene _ intervention hmanager := by
    cases intervention <;> exact hmanager
  addRegistry _ hmanager := hmanager
  record _ _ _ _ hmanager := hmanager
  addManager _ _ _ hmanager := Nat.lt_succ_of_lt hmanager
  addScripted _ _ hmanager := hmanager
  added _ _ _ _ hmanager := hmanager
  connected _ _ _ _ hmanager := hmanager
  disconnected _ _ _ _ hmanager := hmanager
  answered _ _ _ _ _ hmanager := hmanager
  observe _ _ _ _ hmanager := hmanager
  unlisten _ _ _ hmanager := hmanager

namespace MemberPlan

variable {plan : MemberPlan} {scopeName : String} {policy : StatusPolicy} {source : ConfigSource}
  {before ready built : Deployment} {manager : Nat} {member : Member}

theorem Prepared.manager_lt
    (hprepared : plan.Prepared scopeName policy source before manager ready)
    (hclient : plan.client = none)
    (hgiven : ∀ given, plan.manager = some given → given < before.managers.size) :
    manager < ready.managers.size := by
  cases hprepared with
  | given _ hplanned =>
      rw [givenManager, hclient, Option.map_none, Option.or_none] at hplanned
      exact hgiven manager hplanned
  | made => exact Nat.lt_succ_self _

/-- The client that is made with a member is told of changes of the member's record. -/
theorem told_of_build (hreachable : before.Reachable) (hclient : plan.client = none)
    (hgiven : ∀ given, plan.manager = some given → given < before.managers.size)
    (hbuild : plan.build.exec before = (.ok member, built)) :
    built.Told member.manager member.client := by
  have hcounted := (hreachable.build hbuild).counted
  have houtcome := plan.exec_build before
  rw [hbuild] at houtcome
  cases houtcome with
  | given _ _ number _ _ _ hplanned =>
      rw [hclient] at hplanned
      cases hplanned
  | connected options policy source settings number manager ready _ _ _ _ _ hprepared _ hconnect =>
      obtain ⟨-, transports, -, hmade⟩ := Action.client_of_connect hconnect
      refine ⟨hcounted, ?_, ⟨_, hmade⟩, ?_⟩
      · have hafter := (Deployment.manager_invariant manager).connect manager settings
          (plan.transport.getD .http) ready (hprepared.manager_lt hclient hgiven)
        rw [← Action.connectWith_connect, hconnect] at hafter
        exact hafter
      · intro client hfound hregisters _ _
        change built.clients.get number = _ at hfound
        rw [hmade, Client.registry.injEq] at hfound
        subst hfound
        change (built.managers.get manager).listeners.get? _ = _
        rw [Action.listeners_of_connect hregisters hconnect, InstanceManager.listen,
          Table.get?_insert, if_pos rfl]
        rfl

end MemberPlan

end MemberDiscovery
