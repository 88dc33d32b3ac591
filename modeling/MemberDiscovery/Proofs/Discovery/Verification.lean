import MemberDiscovery.Proofs.Deployment.Tracking
import MemberDiscovery.Proofs.Discovery.Lifecycle
import MemberDiscovery.Proofs.Discovery.Reachability

/-! # What a verified start has seen

A member that verifies its registration waits until the registry shows its application. It does not
look for its own record there: a registration that failed is only noted, and records of other
members end the waiting, too. `Deployment.Waited` says what may happen while a member waits, and
`verified_start_shows_application` what the registry has when the start returns.
-/

namespace MemberDiscovery

namespace Deployment

/-- What may happen while a member waits for its application: lookups are noted, and others make
requests fail. -/
structure Waited (registry : Nat) (app : String) (before after : Deployment) : Prop where
  clients : after.clients = before.clients
  managers : after.managers = before.managers
  applications :
    (after.registries.get registry).applications = (before.registries.get registry).applications
  operations : ∃ lookups, (after.registries.get registry).operations =
    (before.registries.get registry).operations ++
      List.replicate lookups (.lookup (Text.upper app))
  undisturbed : before.Undisturbed → after.Undisturbed

namespace Waited

variable {registry : Nat} {app : String} {before middle after : Deployment}

theorem of_registries_eq (app : String) (hclients : after.clients = before.clients)
    (hmanagers : after.managers = before.managers)
    (hregistries : after.registries.get registry = before.registries.get registry)
    (hundisturbed : before.Undisturbed → after.Undisturbed) :
    Waited registry app before after where
  clients := hclients
  managers := hmanagers
  applications := by rw [hregistries]
  operations := ⟨0, by rw [hregistries, List.replicate_zero, List.append_nil]⟩
  undisturbed := hundisturbed

theorem refl (registry : Nat) (app : String) (deployment : Deployment) :
    Waited registry app deployment deployment :=
  .of_registries_eq app rfl rfl rfl id

theorem trans (hfirst : Waited registry app before middle)
    (hsecond : Waited registry app middle after) : Waited registry app before after where
  clients := hsecond.clients.trans hfirst.clients
  managers := hsecond.managers.trans hfirst.managers
  applications := hsecond.applications.trans hfirst.applications
  operations := by
    obtain ⟨earlier, hearlier⟩ := hfirst.operations
    obtain ⟨later, hlater⟩ := hsecond.operations
    refine ⟨earlier + later, ?_⟩
    rw [hlater, hearlier, List.append_assoc, List.replicate_append_replicate]
  undisturbed hbefore := hsecond.undisturbed (hfirst.undisturbed hbefore)

theorem scheduleFailure (registry : Nat) (app : String) (other : Nat) (error : ClientError)
    (deployment : Deployment) :
    Waited registry app deployment (deployment.intervene (.scheduleFailure other error)) := by
  have hsame : ∀ {α : Type} (view : Registry → α),
      (∀ state : Registry, view (state.scheduleFailure error) = view state) →
      view ((deployment.intervene (.scheduleFailure other error)).registries.get registry) =
        view (deployment.registries.get registry) := by
    intro α view hview
    simp only [intervene, Deployment.registries_setRegistry, Slots.get_set]
    split
    next heq => rw [hview, heq]
    next => rfl
  refine ⟨rfl, rfl, hsame (·.applications) fun _ => rfl, ⟨0, ?_⟩, id⟩
  rw [hsame (·.operations) fun _ => rfl, List.replicate_zero, List.append_nil]

theorem interventions (registry : Nat) (app : String) {interventions : List Intervention}
    (hfailures : ∀ intervention ∈ interventions,
      ∃ registry error, intervention = .scheduleFailure registry error)
    (deployment : Deployment) :
    Waited registry app deployment (interventions.foldl intervene deployment) := by
  induction interventions generalizing deployment with
  | nil => exact .refl registry app deployment
  | cons intervention rest ih =>
      obtain ⟨other, error, rfl⟩ := hfailures intervention List.mem_cons_self
      exact (scheduleFailure registry app other error deployment).trans
        (ih (fun later hmem => hfailures later (List.mem_cons_of_mem _ hmem)) _)

theorem sleep (registry : Nat) (app : String) {deployment : Deployment}
    (hundisturbed : deployment.Undisturbed) (milliseconds : Nat) :
    Waited registry app deployment (deployment.sleep milliseconds) := by
  unfold Deployment.sleep
  dsimp only
  split
  next => exact .of_registries_eq app rfl rfl rfl fun _ => hundisturbed
  next actions later hinterventions =>
    have hall : ∀ interventions ∈ actions :: later, ∀ intervention ∈ interventions,
        ∃ registry error, intervention = .scheduleFailure registry error := by
      rw [← hinterventions]
      exact hundisturbed
    refine Waited.trans ?_ (interventions registry app (hall actions List.mem_cons_self) _)
    exact .of_registries_eq app rfl rfl rfl fun _ others hmem =>
      hall others (List.mem_cons_of_mem _ hmem)

variable {number : Nat} {client : RegistryClient}

/-- An application that is found has a record. -/
theorem lookup {deployment : Deployment}
    (hclient : deployment.clients.get number = .registry client)
    (hserved : client.ServedBy registry) (hlive : client.isShutDown = false) (app : String) :
    Waited registry app deployment ((Action.lookup number app).exec deployment).2 ∧
      ∀ found, ((Action.lookup number app).exec deployment).1 = .ok (some found) →
        (((Action.lookup number app).exec deployment).2.registries.get registry).members
          (Text.upper app) ≠ [] := by
  cases hfetches : client.settings.fetches with
  | false =>
      rw [Action.exec_lookup_of_fetches_eq_false hclient hlive hfetches]
      refine ⟨.refl registry app deployment, ?_⟩
      intro found hfound
      cases hfound
  | true =>
      obtain ⟨answer, state, hexec, houtcome⟩ :=
        Action.exec_lookup_of_servedBy hclient hserved hlive hfetches app
      rw [hexec]
      cases houtcome with
      | refused error left =>
          refine ⟨⟨rfl, rfl, ?_, ⟨0, ?_⟩, id⟩, ?_⟩
          · simp
          · simp
          · intro found hfound
            cases hfound
      | taken =>
          have hstate : (deployment.setRegistry registry
              ((deployment.registries.get registry).accept deployment.clock
                (.lookup app)).2).registries.get registry =
              ((deployment.registries.get registry).accept deployment.clock (.lookup app)).2 := by
            simp
          refine ⟨⟨rfl, rfl, ?_, ⟨1, ?_⟩, id⟩, ?_⟩
          · rw [hstate]
            exact Registry.accept_lookup_applications _ _ _
          · rw [hstate]
            rfl
          · intro found hfound hnone
            rw [hstate, Registry.members_congr (Registry.accept_lookup_applications _ _ _)] at hnone
            have hlookup := (Registry.accept_lookup deployment.clock app
              (deployment.registries.get registry)).2.mpr hnone
            rw [Except.ok.inj hfound] at hlookup
            cases hlookup

/-- A member that stops waiting without an error has seen its application. -/
theorem awaitApplication {deployment : Deployment}
    (hclient : deployment.clients.get number = .registry client)
    (hserved : client.ServedBy registry) (hlive : client.isShutDown = false) (app : String)
    (hundisturbed : deployment.Undisturbed) (rounds : Nat) :
    Waited registry app deployment ((Member.awaitApplication number app rounds).exec deployment).2 ∧
      (((Member.awaitApplication number app rounds).exec deployment).1 = some (.ok ()) →
        (((Member.awaitApplication number app rounds).exec deployment).2.registries.get
          registry).members (Text.upper app) ≠ []) := by
  induction rounds generalizing deployment with
  | zero =>
      refine ⟨.refl registry app deployment, ?_⟩
      intro hstopped
      simp [Member.awaitApplication] at hstopped
  | succ rounds ih =>
      -- One round informs, looks up, and then stops or pauses before the rounds that are left.
      let informed := deployment.note (.logged .info "Waiting for registration with Eureka..." [])
      have hinformed : Waited registry app deployment informed :=
        .of_registries_eq app rfl rfl rfl id
      have hsame : informed.clients.get number = .registry client := hclient
      have hlookup := lookup hsame hserved hlive app
      have hlooked := hinformed.trans hlookup.1
      have hpause : ∀ looked : Deployment, Waited registry app deployment looked →
          Waited registry app deployment ((Member.pauseVerification
              (Member.awaitApplication number app rounds)).exec looked).2 ∧
            (((Member.pauseVerification (Member.awaitApplication number app rounds)).exec
                looked).1 = some (.ok ()) →
              (((Member.pauseVerification (Member.awaitApplication number app rounds)).exec
                looked).2.registries.get registry).members (Text.upper app) ≠ []) := by
        intro looked hwaited
        have hslept := hwaited.trans
          (sleep registry app (hwaited.undisturbed hundisturbed) Member.verificationPause)
        have hstill : (looked.sleep Member.verificationPause).clients.get number =
            .registry client := by
          rw [hslept.clients]
          exact hclient
        have hrest := ih hstill (hslept.undisturbed hundisturbed)
        exact ⟨hslept.trans hrest.1, hrest.2⟩
      rw [Member.awaitApplication, Action.exec_bind, Action.exec_inform, Action.exec_bind]
      cases hanswer : ((Action.lookup number app).exec informed).1 with
      | ok found =>
          cases found with
          | none => exact hpause _ hlooked
          | some found =>
              refine ⟨hlooked.trans (.of_registries_eq app rfl rfl rfl id), ?_⟩
              intro _
              exact hlookup.2 found hanswer
      | error error =>
          dsimp only
          split
          next =>
            -- A fatal error ends the wait, but not without an error.
            refine ⟨hlooked, ?_⟩
            intro hstopped
            cases hstopped
          next => exact hpause _ hlooked

end Waited

namespace Tracked

variable {registry manager : Nat} {before after : Deployment}

theorem of_waited {app : String} (manager : Nat)
    (hwaited : Waited registry app before after) :
    ∃ noted, Tracked registry manager before after noted := by
  obtain ⟨lookups, hlookups⟩ := hwaited.operations
  refine ⟨List.replicate lookups (.lookup (Text.upper app)), ?_⟩
  constructor
  · rw [hwaited.managers]
  · rw [hwaited.managers]
  · rw [hwaited.managers]
  · exact .of_applications_eq hwaited.applications hlookups (by simp [List.mem_replicate])
  · exact hwaited.undisturbed

theorem of_apply {number : Nat} (hattached : before.Attached registry manager number)
    (policy : StatusPolicy) (status : InstanceStatus) :
    ((policy.apply manager status).exec before).2.Attached registry manager number ∧
      ∃ noted, Tracked registry manager before ((policy.apply manager status).exec before).2
        noted := by
  have hrestated : ∀ trace, Tracked registry manager before
      { before.setManager manager
        (policy.restated before.clock status (before.managers.get manager)) with trace } [] := by
    intro trace
    apply of_registries_eq <;> simp [Undisturbed]
  rcases StatusPolicy.exec_apply_of_attached hattached policy status with
    ⟨trace, hexec⟩ | ⟨answer, hpublication⟩
  · rw [hexec]
    exact ⟨hattached.congr rfl (by simp), [], hrestated trace⟩
  · obtain ⟨noted, htracked, -⟩ := of_publication hpublication
    have hsame : (before.setManager manager (policy.restated before.clock status
        (before.managers.get manager))).Attached registry manager number :=
      hattached.congr rfl (by simp)
    exact ⟨hsame.publication hpublication, noted, (hrestated before.trace).trans htracked⟩

end Tracked

/-- A member with a client of its own that registers. Nothing is requested before the client is
made. -/
theorem Tracked.of_build {plan : MemberPlan} {registry : Nat} {before built : Deployment}
    {member : Member} {client : RegistryClient} (hclient : plan.client = none)
    (htransport : plan.transport = some (.memory registry)) (hsound : before.Sound)
    (hbuild : plan.build.exec before = (.ok member, built))
    (hmade : built.clients.get member.client = .registry client)
    (hregisters : client.settings.registers = true) :
    built.Attached registry member.manager member.client ∧
      ∃ ready noted, ready.registries = before.registries ∧
        ready.interventions = before.interventions ∧
        Tracked registry member.manager ready built noted ∧
        ((ready.registries.get registry).failures = [] →
          ∃ status, Operation.register (ready.managers.get member.manager).record.app
            (ready.managers.get member.manager).record.id status ∈ noted) := by
  have houtcome := plan.exec_build before
  rw [hbuild] at houtcome
  cases houtcome with
  | given options policy number manager hoptions hpolicy hgiven =>
      rw [hclient] at hgiven
      cases hgiven
  | connected options policy source settings number manager ready _ hoptions hpolicy _ hsource
      hprepared hsettings hconnect =>
      rw [Action.connectWith_connect, htransport] at hconnect
      have hready : ready.registries = before.registries ∧
          ready.interventions = before.interventions ∧
          (ready.managers.get manager).ClientsShareId := by
        cases hprepared with
        | given _ _ =>
            exact ⟨rfl, rfl, hsound.clientsShareId manager⟩
        | made config network trace hgiven hconfig =>
            refine ⟨rfl, rfl, InstanceManager.clientsShareId_of_publishers_eq_nil ?_⟩
            simp [InstanceManager.publishers_ofConfig]
      have hsettings : settings.registers = true := by
        cases hquiet : settings.registers with
        | true => rfl
        | false =>
            have hurls :=
              Action.orderedUrls_ne_nil_of_exec_connect (congrArg Prod.fst hconnect)
            rw [Option.getD_some,
              Action.exec_connect_of_registers_eq_false hurls hquiet] at hconnect
            simp only [Prod.mk.injEq, Except.ok.injEq] at hconnect
            obtain ⟨rfl, rfl⟩ := hconnect
            simp only [MemberPlan.member, addClient, Slots.get_add, if_pos,
              Client.registry.injEq] at hmade
            rw [← hmade] at hregisters
            exact absurd hregisters
              (by simp [RegistryClient.ofMemory, RegistryClient.fresh, hquiet])
      obtain ⟨hattached, noted, htracked, hnoted⟩ :=
        Tracked.of_connect hready.2.2 hsettings hconnect
      exact ⟨hattached, ready, noted, hready.1, hready.2.1, htracked, hnoted⟩

/-- A start that returns has applied the policy and then waited. If it was to be verified, the
application was there at the end. -/
theorem Waited.of_start {registry : Nat} {member : Member} {client : RegistryClient}
    {before after : Deployment}
    (hclient : before.clients.get member.client = .registry client)
    (hserved : client.ServedBy registry) (hlive : client.isShutDown = false)
    (hundisturbed : before.Undisturbed)
    (hstart : member.start.exec before = (some (.ok ()), after)) :
    ∃ app, Waited registry app ((member.policy.apply member.manager .up).exec before).2 after ∧
      (member.skipsVerification = false →
        app = (after.managers.get member.manager).config.appName ∧
          (after.registries.get registry).members (Text.upper app) ≠ []) := by
  have hstable : Action.Stable fun deployment =>
      deployment.clients = before.clients ∧ deployment.interventions = before.interventions :=
    ⟨fun _ _ _ hsame => hsame, fun _ _ _ hsame => hsame, fun _ _ _ _ hsame => hsame⟩
  obtain ⟨hclients, hinterventions⟩ := StatusPolicy.keeps_apply hstable.lasting member.policy
    member.manager .up before ⟨rfl, rfl⟩
  have hcalm : ((member.policy.apply member.manager .up).exec before).2.Undisturbed := by
    rw [Undisturbed, hinterventions]
    exact hundisturbed
  cases hskips : member.skipsVerification with
  | true =>
      rw [member.exec_start_of_skips before hskips] at hstart
      cases hstart
      refine ⟨"", .of_registries_eq "" rfl rfl rfl id, ?_⟩
      intro hverifies
      cases hverifies
  | false =>
      rw [member.exec_start_of_verifies before hskips, Member.exec_verify] at hstart
      have hwaited := Waited.awaitApplication (by rw [hclients]; exact hclient) hserved hlive
        (((member.policy.apply member.manager .up).exec before).2.managers.get
          member.manager).config.appName hcalm
        ((member.policy.apply member.manager .up).exec before).2.patience
      rw [hstart] at hwaited
      exact ⟨_, hwaited.1, fun _ => ⟨by rw [hwaited.1.managers], hwaited.2 rfl⟩⟩

theorem tracked_start {registry : Nat} {member : Member} {before after : Deployment}
    (hattached : before.Attached registry member.manager member.client)
    (hundisturbed : before.Undisturbed) (hverifies : member.skipsVerification = false)
    (hstart : member.start.exec before = (some (.ok ()), after)) :
    (∃ noted, Tracked registry member.manager before after noted) ∧
      (after.registries.get registry).members
        (Text.upper (after.managers.get member.manager).config.appName) ≠ [] := by
  obtain ⟨client, hclient, -, hserved, hlive⟩ := hattached.client
  obtain ⟨-, noted, htracked⟩ := Tracked.of_apply hattached member.policy .up
  obtain ⟨app, hwaited, hseen⟩ := Waited.of_start hclient hserved hlive hundisturbed hstart
  obtain ⟨looked, hlooked⟩ := Tracked.of_waited member.manager hwaited
  obtain ⟨rfl, hmembers⟩ := hseen hverifies
  exact ⟨⟨noted ++ looked, htracked.trans hlooked⟩, hmembers⟩

/-- The deployment after requests of a registry were scheduled to fail. -/
def failing (registry : Nat) (failures : List ClientError) (deployment : Deployment) :
    Deployment :=
  (failures.map (.scheduleFailure registry)).foldl intervene deployment

theorem Waited.failing (registry : Nat) (app : String) (failures : List ClientError)
    (deployment : Deployment) :
    Waited registry app deployment (deployment.failing registry failures) := by
  refine interventions registry app ?_ deployment
  intro intervention hmem
  obtain ⟨error, -, rfl⟩ := List.mem_map.mp hmem
  exact ⟨registry, error, rfl⟩

end Deployment

namespace Member

variable (member : Member) (deployment : Deployment)

def record : Instance :=
  (deployment.managers.get member.manager).record

/-- The application that the member looks up, as registries spell it. -/
def application : String :=
  Text.upper (deployment.managers.get member.manager).config.appName

end Member

/-- Whether a registry has a record under its application, as spelled, and its id. -/
def Registry.Holds (registry : Registry) (record : Instance) : Prop :=
  registry.copies record.app record.id ≠ []

/-- Whatever requests fail, when a verified start of a member with a client of its own returns, the
registry has records of the application that the member looks up, and each is the member's own or
was there before. The own record is there if and only if it was there before or one of the own
registrations was taken. So it is there if there was no other record of the application before, or
no failure scheduled when the member was built. -/
theorem verified_start_shows_application {plan : MemberPlan} {registry : Nat}
    {before built after : Deployment} {member : Member} {client : RegistryClient}
    (hclient : plan.client = none) (htransport : plan.transport = some (.memory registry))
    (hreachable : before.Reachable) (hundisturbed : before.Undisturbed)
    (hbuild : plan.build.exec before = (.ok member, built))
    (hmade : built.clients.get member.client = .registry client)
    (hregisters : client.settings.registers = true)
    (hverifies : member.skipsVerification = false) (failures : List ClientError)
    (hstart : member.start.exec (built.failing registry failures) = (some (.ok ()), after)) :
    ∃ noted,
      (after.registries.get registry).operations =
        (before.registries.get registry).operations ++ noted ∧
      (after.registries.get registry).members (member.application after) ≠ [] ∧
      (∀ record ∈ (after.registries.get registry).members (member.application after),
        record ∈ (before.registries.get registry).members (member.application after) ∨
          member.application after = (member.record after).app ∧
            record.id = (member.record after).id) ∧
      ((after.registries.get registry).Holds (member.record after) ↔
        (before.registries.get registry).Holds (member.record after) ∨
          ∃ status, Operation.register (member.record after).app (member.record after).id status ∈
            noted) ∧
      ((before.registries.get registry).members (member.application after) = [] →
        (after.registries.get registry).Holds (member.record after)) ∧
      ((before.registries.get registry).failures = [] →
        (after.registries.get registry).Holds (member.record after)) := by
  obtain ⟨hattached, ready, earlier, hregistries, hinterventions, hbuilt, hearlier⟩ :=
    Deployment.Tracked.of_build hclient htransport hreachable.sound hbuild hmade hregisters
  have hwaited := Deployment.Waited.failing registry "" failures built
  obtain ⟨scheduled, hscheduled⟩ := Deployment.Tracked.of_waited member.manager hwaited
  have hfailing : (built.failing registry failures).Attached registry member.manager
      member.client := hattached.congr hwaited.clients (by rw [hwaited.managers])
  have hready : ready.Undisturbed := by
    rw [Deployment.Undisturbed, hinterventions]
    exact hundisturbed
  obtain ⟨⟨later, hlater⟩, hseen⟩ := Deployment.tracked_start hfailing
    (hscheduled.undisturbed (hbuilt.undisturbed hready)) hverifies hstart
  have htracked := (hbuilt.trans hscheduled).trans hlater
  have hgained := htracked.gained
  rw [← htracked.app, ← htracked.id, hregistries] at hgained
  rw [← htracked.app, ← htracked.id, hregistries] at hearlier
  refine ⟨_, hgained.operations, hseen, ?_, hgained.own, ?_, ?_⟩
  · intro record hmem
    by_cases hown : member.application after = (member.record after).app ∧
      record.id = (member.record after).id
    · exact .inr hown
    · exact .inl ((hgained.others _ record hown).mp hmem)
  · -- The application was seen, and with no other record in it that was the own one.
    intro hnone
    obtain ⟨record, hmem⟩ := List.exists_mem_of_ne_nil _ hseen
    by_cases hown : member.application after = (member.record after).app ∧
      record.id = (member.record after).id
    · have hcopy : record ∈ (after.registries.get registry).copies (member.record after).app
          (member.record after).id := by
        rw [Registry.copies, ← hown.1]
        exact List.mem_filter.mpr ⟨hmem, by simpa using hown.2⟩
      exact List.ne_nil_of_mem hcopy
    · have hbefore := (hgained.others _ record hown).mp hmem
      rw [hnone] at hbefore
      cases hbefore
  · -- The registration of the new client was taken.
    intro hfailures
    obtain ⟨status, hstatus⟩ := hearlier hfailures
    apply hgained.own.mpr
    exact .inr ⟨status, List.mem_append_left _ (List.mem_append_left _ hstatus)⟩

/-- Whether a member starts with a verified registration, for which a test succeeds then. -/
def Member.starts (member : Member) (before : Deployment) (test : Deployment → Bool) : Bool :=
  !member.skipsVerification && (match member.start.exec before with
    | (some (.ok ()), after) => test after
    | _ => false)

theorem Member.exists_of_starts {member : Member} {before : Deployment} {test : Deployment → Bool}
    (hstarts : member.starts before test = true) :
    member.skipsVerification = false ∧ ∃ after,
      member.start.exec before = (some (.ok ()), after) ∧ test after = true := by
  unfold Member.starts at hstarts
  rw [Bool.and_eq_true, Bool.not_eq_true'] at hstarts
  refine ⟨hstarts.1, ?_⟩
  have htest := hstarts.2
  split at htest
  next after hstart => exact ⟨after, hstart, htest⟩
  next => cases htest

/-- Another member has its record in the registry, and two requests are going to fail. -/
def MemberPlan.sampleFailing : Deployment :=
  (MemberPlan.sampleStart.intervene (.store 0 (.new "app" "peer" 0))).failing 0
    [.noAnswer, .noAnswer]

/-- A verified start returns without a record of the member if both its registrations fail and
another member is there. -/
theorem verified_start_without_record :
    ∃ member built after,
      MemberPlan.sample.build.exec MemberPlan.sampleFailing = (.ok member, built) ∧
        member.skipsVerification = false ∧ member.start.exec built = (some (.ok ()), after) ∧
        ¬ (after.registries.get 0).Holds (member.record after) := by
  have hbuilds : MemberPlan.sample.builds MemberPlan.sampleFailing (fun member built =>
      member.starts built fun after => ((after.registries.get 0).copies
        (member.record after).app (member.record after).id).isEmpty) = true := by
    decide +kernel
  obtain ⟨member, built, hbuild, hstarts⟩ := MemberPlan.exists_of_builds hbuilds
  obtain ⟨hverifies, after, hstart, hempty⟩ := Member.exists_of_starts hstarts
  refine ⟨member, built, after, hbuild, hverifies, hstart, fun hholds => hholds ?_⟩
  exact List.isEmpty_iff.mp hempty

/-- Without another member the record is there, although the first registration failed. -/
theorem verified_start_of_first_member :
    ∃ member built after,
      MemberPlan.sample.build.exec (MemberPlan.sampleStart.failing 0 [.noAnswer]) =
          (.ok member, built) ∧
        member.start.exec (built.failing 0 []) = (some (.ok ()), after) ∧
        (after.registries.get 0).Holds (member.record after) := by
  have hbuilds : MemberPlan.sample.builds (MemberPlan.sampleStart.failing 0 [.noAnswer])
      (fun member built => member.starts (built.failing 0 []) fun after =>
        (built.clients.get member.client).speaks (·.settings.registers) &&
        (((MemberPlan.sampleStart.failing 0 [.noAnswer]).registries.get 0).members
          (member.application after)).isEmpty) = true := by
    decide +kernel
  obtain ⟨member, built, hbuild, hstarts⟩ := MemberPlan.exists_of_builds hbuilds
  obtain ⟨hverifies, after, hstart, htest⟩ := Member.exists_of_starts hstarts
  rw [Bool.and_eq_true] at htest
  obtain ⟨client, hmade, hregisters⟩ := Client.exists_of_speaks htest.1
  have hreachable : (MemberPlan.sampleStart.failing 0 [.noAnswer]).Reachable :=
    .step (.step (.start 0 ⟨"host", "10.0.0.9"⟩ toString) .addRegistry)
      (.intervene (.scheduleFailure 0 .noAnswer))
  have hundisturbed : (MemberPlan.sampleStart.failing 0 [.noAnswer]).Undisturbed := by
    intro interventions hmem
    cases hmem
  obtain ⟨noted, -, -, -, -, hfirst, -⟩ := verified_start_shows_application rfl rfl hreachable
    hundisturbed hbuild hmade hregisters hverifies [] hstart
  exact ⟨member, built, after, hbuild, hstart, hfirst (List.isEmpty_iff.mp htest.2)⟩

end MemberDiscovery
