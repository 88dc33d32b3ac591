import MemberDiscovery.Proofs.Discovery.Verification

/-! # When a start announces a member

A member in metadata mode puts its address into the metadata of its record and then goes up. The
metadata alone is not published: it reaches the registry with the change of the status, through the
client that listens to the record. So a start announces the member if its record was not up before
and that client is served by the registry, and otherwise only if it was announced before.
-/

namespace MemberDiscovery

/-- Whether a registry has a copy of a record that is up and says where the member is and to which
group it belongs. -/
def Registry.Announces (registry : Registry) (record : Instance) (address : Address)
    (groupName : String) : Prop :=
  ∃ copy, (registry.copies record.app record.id).head? = some copy ∧ copy.status = .up ∧
    copy.metadata.get? MetadataKeys.host = some address.host ∧
    copy.metadata.get? MetadataKeys.port = some (Integer.render address.port.toNat) ∧
    copy.metadata.get? MetadataKeys.groupName = some groupName

/-- Only the copies of the record matter. -/
theorem Registry.announces_congr {left right : Registry} {record other : Instance}
    (hcopies : left.copies = right.copies) (happ : record.app = other.app)
    (hid : record.id = other.id) (address : Address) (groupName : String) :
    left.Announces record address groupName ↔ right.Announces other address groupName := by
  unfold Announces
  rw [hcopies, happ, hid]

/-- A record is announced once its registry took it after a policy that publishes was applied. -/
theorem Registry.announces_accept_register {address : Address} {groupName : String}
    (now : Timestamp) (manager : InstanceManager) (registry : Registry) :
    (registry.accept now (.register ((StatusPolicy.publishing address true groupName).restated now
      .up manager).record)).2.Announces manager.record address groupName := by
  have hentries := StatusPolicy.get?_insertAll_publishedEntries address groupName
    manager.record.metadata
  refine ⟨stored now
    ((StatusPolicy.publishing address true groupName).restated now .up manager).record, ?_, ?_, ?_⟩
  · have happ := StatusPolicy.restated_app (.publishing address true groupName) now .up manager
    have hid := StatusPolicy.restated_id (.publishing address true groupName) now .up manager
    rw [copies_congr (Registry.accept_register _ _ _), copies_store, ← happ, ← hid]
    exact congrArg List.head? (if_pos ⟨rfl, rfl⟩)
  · simp [stored, StatusPolicy.restated, StatusPolicy.applies]
  · simpa [stored, StatusPolicy.restated, StatusPolicy.applies, StatusPolicy.prepared,
      InstanceManager.addMetadata, InstanceManager.update, Instance.markDirty] using hentries

namespace Deployment

/-- A registry hears of changes of a record: the client that listens has not ended and is served by
the registry. -/
def Heard (registry manager : Nat) (deployment : Deployment) : Prop :=
  ∃ number client,
    (deployment.managers.get manager).listeners.get? Action.clientListenerId =
        some (.client number) ∧
      deployment.clients.get number = .registry client ∧ client.isShutDown = false ∧
      client.ServedBy registry

variable {deployment : Deployment}

/-- In a sound deployment nobody is told of a change, or the client that was made for the record. -/
theorem Sound.publishers (hsound : deployment.Sound) (registry manager : Nat) :
    ((deployment.managers.get manager).publishers = [] ∧ ¬ deployment.Heard registry manager) ∨
      ∃ number client, (deployment.managers.get manager).publishers = [number] ∧
        deployment.clients.get number = .registry client ∧ client.manager = manager ∧
        client.Uniform ∧
        (deployment.Heard registry manager ↔
          client.isShutDown = false ∧ client.ServedBy registry) := by
  have hpublishers := InstanceManager.publishers_eq (hsound.clientsShareId manager)
  cases hlistener : (deployment.managers.get manager).listeners.get? Action.clientListenerId with
  | none =>
      rw [hlistener] at hpublishers
      refine .inl ⟨hpublishers, ?_⟩
      rintro ⟨number, client, hget, -⟩
      rw [hlistener] at hget
      cases hget
  | some listener =>
      rw [hlistener] at hpublishers
      cases listener with
      | observer tag =>
          refine .inl ⟨hpublishers, ?_⟩
          rintro ⟨number, client, hget, -⟩
          rw [hlistener] at hget
          cases hget
      | client number =>
          obtain ⟨-, -, client, hclient, hmanager⟩ := hsound.listening manager _ number hlistener
          refine .inr ⟨number, client, hpublishers, hclient, hmanager,
            hsound.uniform number client hclient, ?_⟩
          constructor
          · rintro ⟨other, found, hget, hfound, hlive, hserved⟩
            rw [hlistener] at hget
            cases hget
            rw [hclient] at hfound
            cases hfound
            exact ⟨hlive, hserved⟩
          · rintro ⟨hlive, hserved⟩
            exact ⟨number, client, hlistener, hclient, hlive, hserved⟩

end Deployment

/-- A client is served by one registry in memory only. -/
theorem RegistryClient.ServedBy.unique {client : RegistryClient} {left right : Nat}
    (hleft : client.ServedBy left) (hright : client.ServedBy right) : left = right := by
  obtain ⟨server, hmem⟩ := List.exists_mem_of_ne_nil _ hleft.1
  obtain ⟨url, rfl⟩ := hleft.2 server hmem
  obtain ⟨other, heq⟩ := hright.2 _ hmem
  cases heq
  rfl

namespace Action

variable {registry : Nat}

/-- A publication over the network leaves registries in memory alone. -/
theorem register_registries_of_remote {client : RegistryClient}
    (hremote : ∀ server ∈ client.transports, ∃ remote, server = .remote remote)
    (deployment : Deployment) :
    ((register client).exec deployment).2.registries = deployment.registries := by
  have hkeeps : Keeps (fun other => other.registries = deployment.registries)
      (register client) := by
    refine .bind (fun _ hsame => hsame) ?_
    intro manager
    refine .bind (.log (fun _ _ hsame => hsame) _ _ _) ?_
    intro _
    refine .bind (.failover ?_) ?_
    · intro server hmem
      obtain ⟨remote, rfl⟩ := hremote server hmem
      exact .submitRemote remote _ fun _ _ _ hsame => hsame
    · intro answer
      cases answer with
      | ok => exact .bind (fun _ hsame => hsame) fun _ => .pure _
      | error error => exact .pure _
  exact hkeeps deployment rfl

/-- A client that is served elsewhere, or has ended, does not change what a registry holds. -/
theorem push_registry_of_not_served {client : RegistryClient} (huniform : client.Uniform)
    (hdeaf : ¬ (client.isShutDown = false ∧ client.ServedBy registry)) (change : StatusChange)
    (deployment : Deployment) :
    ((push client change).exec deployment).2.registries.get registry =
      deployment.registries.get registry := by
  cases hended : client.isShutDown with
  | true => rw [exec_push_of_isShutDown hended]
  | false =>
      rcases huniform with ⟨other, hserved⟩ | hremote
      · have hother : registry ≠ other := by
          rintro rfl
          exact hdeaf ⟨hended, hserved⟩
        obtain ⟨answer, hpublication⟩ := exec_push hserved hended change deployment
        exact hpublication.registries_get_of_ne hother
      · have hregister := register_registries_of_remote hremote deployment
        unfold push
        rw [hended, if_neg Bool.false_ne_true, exec_bind]
        cases ((register client).exec deployment).1 with
        | ok => exact congrArg (fun registries => registries.get registry) hregister
        | error error => exact congrArg (fun registries => registries.get registry) hregister

end Action

namespace StatusPolicy

variable {registry : Nat} {deployment : Deployment}

/-- Going up announces the member if that is a change and the registry hears of it. -/
theorem announces_apply_up (hsound : deployment.Sound)
    (hfailures : (deployment.registries.get registry).failures = []) (manager : Nat)
    (address : Address) (groupName : String) :
    (((((publishing address true groupName).apply manager .up).exec
        deployment).2.registries.get registry).Announces (deployment.managers.get manager).record
          address groupName ↔
      (deployment.registries.get registry).Announces (deployment.managers.get manager).record
          address groupName ∨
        (deployment.managers.get manager).record.status ≠ .up ∧
          deployment.Heard registry manager) := by
  by_cases hstatus : (deployment.managers.get manager).record.status = .up
  · -- The metadata is changed in the manager, and the registry keeps what it has.
    obtain ⟨trace, hexec⟩ := exec_apply_of_eq hstatus (publishing address true groupName)
    rw [hexec]
    simp [hstatus]
  · rcases hsound.publishers registry manager with ⟨hpublishers, hheard⟩ |
      ⟨number, client, hpublishers, hclient, hmanager, huniform, hheard⟩
    · obtain ⟨trace, hexec⟩ := exec_apply_of_publishers_eq_nil hpublishers
        (publishing address true groupName) .up
      rw [hexec]
      simp [hheard]
    · by_cases haudible : client.isShutDown = false ∧ client.ServedBy registry
      · -- The record is sent with its metadata, and no request fails.
        have hattached : deployment.Attached registry manager number :=
          ⟨⟨client, hclient, hmanager, haudible.2, haudible.1⟩, hpublishers⟩
        have happlies : (publishing address true groupName).applies = true := rfl
        obtain ⟨answer, hpublication⟩ := exec_apply_published hattached happlies hstatus
        refine iff_of_true ?_ (.inr ⟨hstatus, hheard.mpr haudible⟩)
        obtain ⟨trace, hafter⟩ := hpublication.eq_of_failures_eq_nil hfailures
        rw [hafter, Deployment.registry_published, Deployment.managers_setManager, Slots.get_set,
          if_pos rfl]
        exact Registry.announces_accept_register _ _ _
      · have happlies : (publishing address true groupName).applies = true := rfl
        obtain ⟨change, earlier, later, hexec⟩ :=
          exec_apply_of_publisher hpublishers hclient happlies hstatus
        rw [hexec]
        dsimp only
        rw [Action.push_registry_of_not_served huniform haudible]
        simp [hheard, haudible]

end StatusPolicy

namespace Action

/-- A client that is served by a registry in memory was connected to it. -/
theorem kind_of_connect {manager number registry : Nat} {settings : ClientSettings}
    {kind : TransportKind} {before after : Deployment} {client : RegistryClient}
    (hconnect : (connect manager settings kind).exec before = (.ok number, after))
    (hclient : after.clients.get number = .registry client) (hserved : client.ServedBy registry) :
    kind = .memory registry ∧ client.settings = settings ∧ settings.orderedUrls ≠ [] := by
  obtain ⟨hurls, transports, htransports, hmade⟩ := client_of_connect hconnect
  rw [hmade] at hclient
  cases hclient
  refine ⟨?_, rfl, hurls⟩
  cases kind with
  | memory other =>
      rw [mapM_connect_memory, Except.ok.injEq] at htransports
      have hother := RegistryClient.servedBy_ofMemory manager other
        (before.managers.get manager).record hurls
      subst htransports
      exact congrArg TransportKind.memory (RegistryClient.ServedBy.unique hother hserved)
  | http =>
      obtain ⟨server, hmem⟩ := List.exists_mem_of_ne_nil _ hserved.1
      obtain ⟨url, rfl⟩ := hserved.2 server hmem
      obtain ⟨remote, hremote⟩ := remote_of_mapM_connect htransports _ hmem
      cases hremote

end Action

namespace Deployment

/-- The one client that listens is heard. -/
theorem Attached.heard {registry manager number : Nat} {deployment : Deployment}
    (hattached : deployment.Attached registry manager number) (hsound : deployment.Sound) :
    deployment.Heard registry manager := by
  rcases hsound.publishers registry manager with ⟨hnone, -⟩ |
    ⟨other, client, hpublishers, hclient, -, -, hheard⟩
  · rw [hattached.publishers] at hnone
    cases hnone
  · obtain ⟨found, hfound, -, hserved, hlive⟩ := hattached.client
    rw [hattached.publishers] at hpublishers
    cases hpublishers
    rw [hclient] at hfound
    cases hfound
    exact hheard.mpr ⟨hlive, hserved⟩

/-- A member that made its record and its client is starting, and the registry hears of its
record. -/
theorem heard_of_build {plan : MemberPlan} {registry : Nat} {before built : Deployment}
    {member : Member} {client : RegistryClient} (hclient : plan.client = none)
    (hmanager : plan.manager = none) (hbuild : plan.build.exec before = (.ok member, built))
    (happlies : member.policy.applies = true)
    (hmade : built.clients.get member.client = .registry client)
    (hserved : client.ServedBy registry) (hregisters : client.settings.registers = true)
    (hsound : built.Sound) :
    (member.record built).status ≠ .up ∧ built.Heard registry member.manager := by
  have houtcome := plan.exec_build before
  rw [hbuild] at houtcome
  cases houtcome with
  | given options policy number manager hoptions hpolicy hgiven =>
      rw [hclient] at hgiven
      cases hgiven
  | connected options policy source settings number manager ready _ hoptions hpolicy _ hsource
      hprepared hsettings hconnect =>
      obtain ⟨hkind, rfl, hurls⟩ := Action.kind_of_connect hconnect hmade hserved
      rw [hkind] at hconnect
      obtain ⟨-, rfl, answer, hpublication⟩ :=
        Action.connected_of_exec_connect hregisters hconnect
      cases hprepared with
      | given _ hgiven => simp [MemberPlan.givenManager, hclient, hmanager] at hgiven
      | made config network trace hgiven hconfig =>
          have hstatus := hpublication.status_eq
          have hattached := (Attached.connected registry _
            (InstanceManager.clientsShareId_of_publishers_eq_nil
              (by simp [InstanceManager.publishers_ofConfig])) hurls).publication hpublication
          refine ⟨?_, hattached.heard hsound⟩
          have hpolicy : policy.applies = true := happlies
          simp only [Deployment.connected, RegistryClient.ofMemory, RegistryClient.fresh,
            Slots.get_set, Slots.get_add, if_pos, InstanceManager.listen, StatusPolicy.restated,
            hpolicy, InstanceManager.setStatus_status] at hstatus
          unfold Member.record
          rw [MemberPlan.member, hstatus]
          decide

end Deployment

/-- In metadata mode a member that registers itself publishes its private address. -/
theorem MemberPlan.policy_of_build {plan : MemberPlan} {node : Node} {options : MemberOptions}
    {before built : Deployment} {member : Member} (hnode : plan.node = some node)
    (hoptions : MemberOptions.read (plan.lookup before) = .ok options)
    (hself : options.selfRegistration = true) (hmetadata : options.usesMetadata = true)
    (hbuild : plan.build.exec before = (.ok member, built)) :
    member.policy = .publishing node.privateAddress true plan.group := by
  have hchosen : ∀ policy, plan.choosePolicy options = .ok policy →
      policy = .publishing node.privateAddress true plan.group := by
    intro policy hpolicy
    rw [policy_of_usesMetadata hnode hmetadata hpolicy, hself]
  have houtcome := plan.exec_build before
  rw [hbuild] at houtcome
  cases houtcome with
  | given other policy client manager hother hpolicy =>
      rw [hoptions] at hother
      cases hother
      exact hchosen policy hpolicy
  | connected other policy source settings client manager ready _ hother hpolicy =>
      rw [hoptions] at hother
      cases hother
      exact hchosen policy hpolicy

/-- A member in metadata mode whose start returns is announced if and only if it was before, or its
record was not up and the registry heard of it. So it is announced if it made its record and its
client. -/
theorem start_announces_member_iff {plan : MemberPlan} {node : Node} {options : MemberOptions}
    {registry : Nat} {before built ready after : Deployment} {member : Member}
    {client : RegistryClient} (hnode : plan.node = some node)
    (hoptions : MemberOptions.read (plan.lookup before) = .ok options)
    (hself : options.selfRegistration = true) (hmetadata : options.usesMetadata = true)
    (hbuild : plan.build.exec before = (.ok member, built)) (hreachable : ready.Reachable)
    (hclient : ready.clients.get member.client = .registry client)
    (hserved : client.ServedBy registry) (hlive : client.isShutDown = false)
    (hfailures : (ready.registries.get registry).failures = [])
    (hundisturbed : ready.Undisturbed)
    (hstart : member.start.exec ready = (some (.ok ()), after)) :
    ((after.registries.get registry).Announces (member.record ready) node.privateAddress
        plan.group ↔
      (ready.registries.get registry).Announces (member.record ready) node.privateAddress
          plan.group ∨
        (member.record ready).status ≠ .up ∧ ready.Heard registry member.manager) ∧
      (plan.client = none → plan.manager = none → client.settings.registers = true →
        ready = built →
        (after.registries.get registry).Announces (member.record ready) node.privateAddress
          plan.group) := by
  have hpolicy := plan.policy_of_build hnode hoptions hself hmetadata hbuild
  obtain ⟨app, hwaited, -⟩ :=
    Deployment.Waited.of_start hclient hserved hlive hundisturbed hstart
  have hup := StatusPolicy.announces_apply_up hreachable.sound hfailures member.manager
    node.privateAddress plan.group
  rw [← hpolicy, ← Registry.announces_congr (Registry.copies_congr hwaited.applications) rfl rfl]
    at hup
  refine ⟨hup, fun hnone hmanager hregisters hsame => hup.mpr (.inr ?_)⟩
  subst hsame
  exact Deployment.heard_of_build hnone hmanager hbuild (by rw [hpolicy]; rfl) hclient hserved
    hregisters hreachable.sound

/-- A member with a record that is made before it. -/
def MemberPlan.sampleGiven : MemberPlan :=
  { sample with manager := some 0 }

/-- A process with an empty registry and a record that is up. -/
def MemberPlan.sampleUp : Deployment :=
  (sampleStart.addManager
    (.ofRecord { (default : InstanceConfig) with appName := "app" } (.new "app" "member" 0))).2

theorem MemberPlan.reachable_sampleUp : sampleUp.Reachable :=
  .step (.step (.start 0 ⟨"host", "10.0.0.9"⟩ toString) .addRegistry) (.addManager _ _)

/-- A member whose record is up already is registered without its address: the client registers the
record before the address is in its metadata, and starting is no change of the status. -/
theorem start_of_up_record_not_announced :
    ∃ member built after,
      MemberPlan.sampleGiven.build.exec MemberPlan.sampleUp = (.ok member, built) ∧
        member.start.exec built = (some (.ok ()), after) ∧
        ¬ (after.registries.get 0).Announces (member.record built) ⟨"10.0.0.1", 5701⟩
          MemberPlan.defaultGroupName := by
  have hbuilds : MemberPlan.sampleGiven.builds MemberPlan.sampleUp (fun member built =>
      member.starts built fun _ =>
        (built.clients.get member.client).speaks (fun client =>
          decide (client.transports = [.memory 0 "memory://registry"] ∧
            client.isShutDown = false)) &&
        decide ((built.registries.get 0).failures = [] ∧ built.interventions = [] ∧
          (member.record built).status = .up ∧
          ((built.registries.get 0).copies (member.record built).app
            (member.record built).id).head?.map (·.metadata.get? MetadataKeys.host) =
              some none)) = true := by
    decide +kernel
  obtain ⟨member, built, hbuild, hstarts⟩ := MemberPlan.exists_of_builds hbuilds
  obtain ⟨-, after, hstart, htest⟩ := Member.exists_of_starts hstarts
  rw [Bool.and_eq_true, decide_eq_true_eq] at htest
  obtain ⟨hclient, hfailures, hinterventions, hstatus, hhost⟩ := htest
  obtain ⟨client, hmade, hsettled⟩ := Client.exists_of_speaks hclient
  obtain ⟨htransports, hlive⟩ := of_decide_eq_true hsettled
  have hserved : client.ServedBy 0 := by
    rw [RegistryClient.ServedBy, htransports]
    simp
  have hreachable : built.Reachable := by
    have hstep := Deployment.Reachable.step MemberPlan.reachable_sampleUp
      (.build MemberPlan.sampleGiven)
    rw [ProcessStep.after, hbuild] at hstep
    exact hstep
  have hoptions : MemberOptions.read (MemberPlan.sampleGiven.lookup MemberPlan.sampleUp) =
      .ok ⟨MemberOptions.defaultScopeName, true, true, true, false⟩ := by
    decide +kernel
  have hundisturbed : built.Undisturbed := by
    rw [Deployment.Undisturbed, hinterventions]
    simp
  have hiff := (start_announces_member_iff rfl hoptions rfl rfl hbuild hreachable hmade hserved
    hlive hfailures hundisturbed hstart).1
  refine ⟨member, built, after, hbuild, hstart, ?_⟩
  intro hannounced
  rcases hiff.mp hannounced with ⟨copy, hcopy, -, hcopyHost, -⟩ | ⟨hdown, -⟩
  · rw [hcopy] at hhost
    rw [Option.map_some, hcopyHost] at hhost
    cases hhost
  · exact hdown hstatus

end MemberDiscovery
