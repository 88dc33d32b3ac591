import MemberDiscovery.Proofs.Deployment.Rounds
import MemberDiscovery.Proofs.Discovery.Leaving

/-! # Members that only look for others

A member without a local node, or for which self-registration is off, is not seen by others. Its
policy does nothing, and its client is made without a request and never makes any but lookups,
whatever is called on the member and however it fails; its record stays as it was
(`MemberPlan.onlooker_of_build`).
-/

namespace MemberDiscovery

open MemberDiscovery.Action (Keeps)

/-! ## Looking without being seen -/

/-- What somebody does who only looks for applications. -/
inductive Inquiry where
  /-- An application is looked up in one round. -/
  | lookup (app : String)
  | pause (milliseconds : Nat)

def Inquiry.after (servers : List Transport) (deployment : Deployment) : Inquiry → Deployment
  | .lookup app => ((failover (Action.submit (.lookup app)) servers).exec deployment).2
  | .pause milliseconds => deployment.sleep milliseconds

theorem Inquiry.outside_after {deployment other : Deployment}
    (hsame : deployment.outside = other.outside) (servers : List Transport) (inquiry : Inquiry) :
    (inquiry.after servers deployment).outside = (inquiry.after servers other).outside := by
  cases inquiry with
  | lookup app => exact (Action.Respects.failover _ _ _ _ hsame).2
  | pause milliseconds => exact Deployment.outside_sleep hsame milliseconds

namespace Deployment

variable {before middle after : Deployment}

/-- Of all requests, registries have noted lookups only. -/
def OnlyLookups (before after : Deployment) : Prop :=
  ∀ registry, ∃ apps : List String, (after.registries.get registry).operations =
    (before.registries.get registry).operations ++ apps.map .lookup

namespace OnlyLookups

theorem of_operations_eq (hsame : ∀ registry, (after.registries.get registry).operations =
    (before.registries.get registry).operations) : OnlyLookups before after := fun registry =>
  ⟨[], by simp [hsame registry]⟩

theorem refl (deployment : Deployment) : OnlyLookups deployment deployment :=
  .of_operations_eq fun _ => rfl

theorem trans (hfirst : OnlyLookups before middle) (hsecond : OnlyLookups middle after) :
    OnlyLookups before after := by
  intro registry
  obtain ⟨earlier, hearlier⟩ := hfirst registry
  obtain ⟨later, hlater⟩ := hsecond registry
  exact ⟨earlier ++ later, by rw [hlater, hearlier, List.append_assoc, List.map_append]⟩

theorem setRegistry {number : Nat} {state : Registry} (apps : List String)
    (hstate : state.operations =
      (before.registries.get number).operations ++ apps.map .lookup) :
    OnlyLookups before (before.setRegistry number state) := by
  intro registry
  by_cases hnumber : registry = number
  · exact ⟨apps, by simpa [hnumber] using hstate⟩
  · exact ⟨[], by simp [hnumber]⟩

theorem intervene (before : Deployment) (intervention : Intervention) :
    OnlyLookups before (before.intervene intervention) := by
  cases intervention with
  | store number record => exact setRegistry [] (by simp [Registry.store])
  | evict number app id => exact setRegistry [] (by simp [Registry.evict_operations])
  | scheduleFailure number error =>
      exact setRegistry [] (by simp [Registry.scheduleFailure])

theorem sleep (before : Deployment) (milliseconds : Nat) :
    OnlyLookups before (before.sleep milliseconds) :=
  sleep_keeps (fun _ _ _ _ hbefore => hbefore)
    (fun middle intervention hbefore => hbefore.trans (intervene middle intervention)) (refl before)
    milliseconds

theorem lookup (servers : List Transport) (app : String) (before : Deployment) :
    OnlyLookups before ((failover (Action.submit (.lookup app)) servers).exec before).2 := by
  have hkeeps : Keeps (OnlyLookups before) (failover (Action.submit (.lookup app)) servers) := by
    refine .failover ?_
    intro server _
    cases server with
    | remote server =>
        exact .submitRemote server _ fun _ _ _ hbefore =>
          hbefore.trans (.of_operations_eq fun _ => rfl)
    | memory registry url =>
        intro middle hmiddle
        refine hmiddle.trans ?_
        cases hfailures : (middle.registries.get registry).failures with
        | nil =>
            rw [Action.exec_submit_of_failures_eq_nil hfailures]
            exact setRegistry [Text.upper app] rfl
        | cons error left =>
            rw [Action.exec_submit_of_failures_eq_cons hfailures]
            exact setRegistry [] (List.append_nil _).symm
  exact hkeeps before (refl before)

theorem inquiry (servers : List Transport) (before : Deployment) (inquiry : Inquiry) :
    OnlyLookups before (inquiry.after servers before) := by
  cases inquiry with
  | lookup app => exact lookup servers app before
  | pause milliseconds => exact sleep before milliseconds

theorem inquiries (servers : List Transport) (inquiries : List Inquiry) (before : Deployment) :
    OnlyLookups before (inquiries.foldl (Inquiry.after servers) before) := by
  induction inquiries generalizing before with
  | nil => exact refl before
  | cons first rest ih => exact (inquiry servers before first).trans (ih _)

end OnlyLookups

/-- Since a client was there, it may have ended, all records stayed as they were, and others have
seen what they see of inquiries at the servers of the client. -/
structure Overlooked (number : Nat) (client : RegistryClient) (before after : Deployment) :
    Prop where
  present : after.clients.get number = .registry client ∨
    after.clients.get number = .registry client.ended
  records : ∀ manager, (after.managers.get manager).record = (before.managers.get manager).record
  seen : ∃ inquiries : List Inquiry,
    after.outside = (inquiries.foldl (Inquiry.after client.transports) before).outside

namespace Overlooked

variable {number : Nat} {client : RegistryClient} {last : Deployment}

theorem refl (hclient : before.clients.get number = .registry client) :
    Overlooked number client before before where
  present := .inl hclient
  records _ := rfl
  seen := ⟨[], rfl⟩

/-- What others do not see may happen. -/
theorem unseen (hoverlooked : Overlooked number client before after)
    (hpresent : last.clients.get number = .registry client ∨
      last.clients.get number = .registry client.ended)
    (hrecords : ∀ manager, (last.managers.get manager).record =
      (after.managers.get manager).record)
    (hunseen : last.outside = after.outside) : Overlooked number client before last where
  present := hpresent
  records manager := (hrecords manager).trans (hoverlooked.records manager)
  seen := by
    obtain ⟨inquiries, hseen⟩ := hoverlooked.seen
    exact ⟨inquiries, hunseen.trans hseen⟩

theorem inquire (hoverlooked : Overlooked number client before after) (inquiry : Inquiry)
    (hclients : last.clients = after.clients) (hmanagers : last.managers = after.managers)
    (hseen : last.outside = (inquiry.after client.transports after).outside) :
    Overlooked number client before last where
  present := by rw [hclients]; exact hoverlooked.present
  records := by rw [hmanagers]; exact hoverlooked.records
  seen := by
    obtain ⟨inquiries, hearlier⟩ := hoverlooked.seen
    refine ⟨inquiries ++ [inquiry], ?_⟩
    rw [hseen, List.foldl_append]
    exact Inquiry.outside_after hearlier client.transports inquiry

theorem log (level : LogLevel) (message : String) (fields : List (String × String)) :
    Keeps (Overlooked number client before) (Action.log level message fields) :=
  fun _ hoverlooked => hoverlooked.unseen hoverlooked.present (fun _ => rfl)
    (outside_note_logged level message fields)

theorem sleep (hoverlooked : Overlooked number client before after) (milliseconds : Nat) :
    Overlooked number client before (after.sleep milliseconds) := by
  obtain ⟨hclients, hmanagers⟩ := after.own_sleep milliseconds
  exact hoverlooked.inquire (.pause milliseconds) hclients hmanagers rfl

/-- The client still has its settings and its servers, and it has ended or not. -/
theorem exists_present (hoverlooked : Overlooked number client before after) :
    ∃ present : RegistryClient, after.clients.get number = .registry present ∧
      present.settings = client.settings ∧ present.transports = client.transports ∧
      (present.isShutDown = false → present = client) := by
  rcases hoverlooked.present with hclient | hclient
  · exact ⟨client, hclient, rfl, rfl, fun _ => rfl⟩
  · exact ⟨client.ended, hclient, rfl, rfl, nofun⟩

theorem lookup (app : String) :
    Keeps (Overlooked number client before) (Action.lookup number app) := by
  intro after hoverlooked
  obtain ⟨present, hclient, hsettings, htransports, -⟩ := hoverlooked.exists_present
  cases hended : present.isShutDown with
  | true =>
      rw [Action.exec_lookup_of_isShutDown hclient hended]
      exact hoverlooked
  | false =>
      rw [Action.exec_lookup_of_live hclient hended, hsettings, htransports]
      split
      next =>
        obtain ⟨hclients, hmanagers⟩ := Action.own_failover (.lookup app) client.transports after
        exact hoverlooked.inquire (.lookup app) hclients hmanagers rfl
      next => exact hoverlooked

theorem patient : Patient number (Overlooked number client before) where
  log := log
  sleep _ milliseconds hoverlooked := hoverlooked.sleep milliseconds
  lookup := lookup

/-- A client that does not register ends without a request. -/
theorem shutDown (hquiet : client.settings.registers = false) :
    Keeps (Overlooked number client before) (Action.shutDown number) := by
  intro after hoverlooked
  obtain ⟨present, hclient, -, -, hsame⟩ := hoverlooked.exists_present
  cases hended : present.isShutDown with
  | true =>
      rw [Action.exec_shutDown_of_isShutDown hclient hended]
      exact hoverlooked
  | false =>
      obtain rfl := hsame hended
      rw [Action.exec_shutDown_of_live hclient hended, if_neg (by simp [hquiet]), Action.exec_pure]
      refine hoverlooked.unseen (.inr (by simp [disconnected, note])) ?_ (by simp [disconnected])
      intro manager
      simp only [disconnected, managers_setManager, Slots.get_set]
      split
      next heq => rw [heq]; rfl
      next => rfl

/-- A client without a thread makes no heartbeats. -/
theorem beat (hthread : client.heartbeat = none) (waited : Nat) :
    Keeps (Overlooked number client before) (Action.beat number waited) := by
  intro after hoverlooked
  rcases hoverlooked.present with hclient | hclient
  · rw [Action.exec_beat_of_heartbeat_eq_none hclient hthread]
    exact hoverlooked
  · rw [Action.exec_beat_of_heartbeat_eq_none hclient rfl]
    exact hoverlooked

end Overlooked

end Deployment

/-! ## Policies that do nothing -/

/-- The policy does not register, and nothing is ever done with a record. -/
structure StatusPolicy.Idle (policy : StatusPolicy) : Prop where
  registers : policy.registers = false
  applies : policy.applies = false
  apply : ∀ manager status, policy.apply manager status = pure ()

theorem StatusPolicy.idle_disabled : StatusPolicy.disabled.Idle := ⟨rfl, rfl, fun _ _ => rfl⟩

theorem StatusPolicy.idle_publishing (address : Address) (groupName : String) :
    (StatusPolicy.publishing address false groupName).Idle := ⟨rfl, rfl, fun _ _ => rfl⟩

theorem MemberOptions.flag_of_read {lookup : OptionLookup} {options : MemberOptions}
    (hread : read lookup = .ok options) :
    lookup.flag .selfRegistration true = .ok options.selfRegistration := by
  obtain ⟨scopeName, -, hread⟩ := bind_eq_ok_iff.mp hread
  obtain ⟨selfRegistration, hself, hread⟩ := bind_eq_ok_iff.mp hread
  obtain ⟨usesMetadata, -, hread⟩ := bind_eq_ok_iff.mp hread
  obtain ⟨usesResource, -, hread⟩ := bind_eq_ok_iff.mp hread
  obtain ⟨skipsVerification, -, hread⟩ := bind_eq_ok_iff.mp hread
  cases hread
  exact hself

namespace MemberPlan

/-- Without a local node or self-registration, no policy is chosen that does anything, whichever is
given. -/
theorem idle_of_choosePolicy {plan : MemberPlan} {options : MemberOptions} {policy : StatusPolicy}
    (hlooks : plan.node = none ∨ options.selfRegistration = false)
    (hpolicy : plan.choosePolicy options = .ok policy) : policy.Idle := by
  cases hnode : plan.node with
  | none =>
      have hdisabled : policy = .disabled := by
        cases hself : options.selfRegistration <;> cases hmode : options.usesMetadata <;>
          simpa [choosePolicy, hnode, hself, hmode, plannedPolicy, eq_comm] using hpolicy
      rw [hdisabled]
      exact StatusPolicy.idle_disabled
  | some node =>
      have hself : options.selfRegistration = false := by
        rcases hlooks with hnone | hself
        · rw [hnone] at hnode
          cases hnode
        · exact hself
      cases hmode : options.usesMetadata with
      | false =>
          simp only [choosePolicy, hnode, hself, hmode, Except.ok.injEq] at hpolicy
          rw [← hpolicy]
          exact StatusPolicy.idle_disabled
      | true =>
          rw [policy_of_usesMetadata hnode hmode hpolicy, hself]
          exact StatusPolicy.idle_publishing _ _

end MemberPlan

/-! ## Calls on a member -/

/-- What may be called on a member. The thread of its client, if it has one, may wake up. -/
inductive MemberCall where
  | start
  | verify
  | discover
  | destroy
  | beat (waited : Nat)

/-- The deployment after a call. -/
def MemberCall.after (member : Member) (deployment : Deployment) : MemberCall → Deployment
  | .start => (member.start.exec deployment).2
  | .verify => (member.verify.exec deployment).2
  | .discover => (member.discover.exec deployment).2
  | .destroy => (member.destroy.exec deployment).2
  | .beat waited => ((Action.beat member.client waited).exec deployment).2

namespace Deployment.Overlooked

variable {client : RegistryClient} {before after : Deployment} {member : Member}

theorem call (hoverlooked : Overlooked member.client client before after)
    (hidle : member.policy.Idle) (hquiet : client.settings.registers = false)
    (hthread : client.heartbeat = none) (call : MemberCall) :
    Overlooked member.client client before (call.after member after) := by
  have happly (status : InstanceStatus) : Keeps (Overlooked member.client client before)
      (member.policy.apply member.manager status) := by
    rw [hidle.apply]
    exact .pure _
  cases call with
  | start => exact patient.start (happly .up) after hoverlooked
  | verify => exact patient.verify after hoverlooked
  | discover => exact patient.discover after hoverlooked
  | destroy => exact Keeps.bind (happly .down) (fun _ => shutDown hquiet) after hoverlooked
  | beat waited => exact beat hthread waited after hoverlooked

theorem calls (hoverlooked : Overlooked member.client client before after)
    (hidle : member.policy.Idle) (hquiet : client.settings.registers = false)
    (hthread : client.heartbeat = none) (calls : List MemberCall) :
    Overlooked member.client client before (calls.foldl (MemberCall.after member) after) := by
  induction calls generalizing after with
  | nil => exact hoverlooked
  | cons first rest ih => exact ih (hoverlooked.call hidle hquiet hthread first)

theorem onlyLookups {number : Nat} (hoverlooked : Overlooked number client before after) :
    OnlyLookups before after := by
  obtain ⟨inquiries, hseen⟩ := hoverlooked.seen
  intro registry
  rw [(outside_eq_iff.mp hseen).2.1]
  exact OnlyLookups.inquiries client.transports inquiries before registry

end Deployment.Overlooked

/-- A member that only looks for others, from when it was built. -/
structure Member.Onlooker (member : Member) (plan : MemberPlan) (before built : Deployment) :
    Prop where
  registers : member.policy.registers = false
  /-- The manager that is given stays as it is. -/
  given : ∀ manager, plan.manager = some manager →
    member.manager = manager ∧ built.managers = before.managers
  /-- A manager that is made stays as it was made. -/
  made : plan.manager = none → ∃ config, member.manager = before.managers.size ∧
    built.managers = (before.managers.add (.ofConfig config before.clock)).2
  /-- The client is made last, and without a request. -/
  connected : ∃ settings ready, ready.registries = before.registries ∧
    (Action.connect member.manager settings (plan.transport.getD .http)).exec ready =
        (.ok member.client, built) ∧ built.outside = ready.outside
  record : ∀ calls : List MemberCall,
    ((calls.foldl (MemberCall.after member) built).managers.get member.manager).record =
      (built.managers.get member.manager).record
  /-- Others see what they see of inquiries at the servers of the client. -/
  requests : ∃ client : RegistryClient, built.clients.get member.client = .registry client ∧
    ∀ calls : List MemberCall, ∃ inquiries : List Inquiry,
      (calls.foldl (MemberCall.after member) built).outside =
        (inquiries.foldl (Inquiry.after client.transports) built).outside
  operations : ∀ calls : List MemberCall,
    built.OnlyLookups (calls.foldl (MemberCall.after member) built)

/-- What is prepared for a policy that does nothing is the manager as it is given or made. -/
theorem MemberPlan.Prepared.of_idle {plan : MemberPlan} {scopeName : String}
    {policy : StatusPolicy} {source : ConfigSource} {before ready : Deployment} {manager : Nat}
    (hprepared : plan.Prepared scopeName policy source before manager ready)
    (hidle : policy.Idle) (hclient : plan.client = none) :
    ready.registries = before.registries ∧
      (∀ given, plan.manager = some given → manager = given ∧ ready.managers = before.managers) ∧
      (plan.manager = none → ∃ config, manager = before.managers.size ∧
        ready.managers = (before.managers.add (.ofConfig config before.clock)).2) := by
  have hplanned : plan.givenManager before = plan.manager := by
    simp [MemberPlan.givenManager, hclient]
  cases hprepared with
  | given _ hgiven =>
      rw [hplanned] at hgiven
      refine ⟨rfl, ?_, ?_⟩
      · intro given hsome
        rw [hgiven, Option.some.injEq] at hsome
        exact ⟨hsome, rfl⟩
      · intro hnone
        rw [hgiven] at hnone
        cases hnone
  | made config network trace hgiven hconfig =>
      rw [hplanned] at hgiven
      refine ⟨rfl, ?_, ?_⟩
      · intro given hsome
        rw [hgiven] at hsome
        cases hsome
      · intro _
        refine ⟨config, rfl, ?_⟩
        rw [StatusPolicy.restated, hidle.applies, if_neg Bool.false_ne_true]

/-- A client that is made for a policy that does not register does not register either. -/
theorem ConfigSource.registers_eq_false_of_idle {source : ConfigSource} {scopeName : String}
    {policy : StatusPolicy} {settings : ClientSettings} (hidle : policy.Idle)
    (hsettings : source.clientSettings scopeName policy.registers = .ok settings) :
    settings.registers = false := by
  cases hregisters : settings.registers with
  | false => rfl
  | true =>
      have hpolicy := ConfigSource.registers_of_clientSettings hsettings hregisters
      rw [hidle.registers] at hpolicy
      cases hpolicy

/-- A client that does not register is made without being seen. -/
theorem Action.unseen_connect {manager number : Nat} {settings : ClientSettings}
    {kind : TransportKind} {ready built : Deployment} (hquiet : settings.registers = false)
    (hconnect : (connect manager settings kind).exec ready = (.ok number, built)) :
    built.outside = ready.outside ∧ built.managers = ready.managers ∧
      ∃ client : RegistryClient, built.clients.get number = .registry client ∧
        client.settings.registers = false ∧ client.heartbeat = none := by
  obtain ⟨hnumber, transports, hbuilt⟩ := eq_addClient_of_connect hquiet hconnect
  rw [hbuilt]
  refine ⟨rfl, rfl, .fresh manager settings transports (ready.managers.get manager).record, ?_,
    hquiet, ?_⟩
  · simp [hnumber, Deployment.addClient]
  · rw [RegistryClient.fresh, hquiet, if_neg Bool.false_ne_true]

/-- A member without a client, and without a local node or self-registration, only looks for others,
whatever it is built from and whatever is called on it. -/
theorem MemberPlan.onlooker_of_build {plan : MemberPlan} {before built : Deployment}
    {member : Member} (hclient : plan.client = none)
    (hlooks : plan.node = none ∨
      (plan.lookup before).flag .selfRegistration true = .ok false)
    (hbuild : plan.build.exec before = (.ok member, built)) :
    member.Onlooker plan before built := by
  have houtcome := plan.exec_build before
  rw [hbuild] at houtcome
  cases houtcome with
  | given _ _ number _ _ _ hgiven =>
      rw [hclient] at hgiven
      cases hgiven
  | connected options policy source settings number manager ready _ hoptions hpolicy _ _ hprepared
      hsettings hconnect =>
      have hidle : policy.Idle := by
        refine MemberPlan.idle_of_choosePolicy (hlooks.imp_right ?_) hpolicy
        intro hflag
        rw [MemberOptions.flag_of_read hoptions, Except.ok.injEq] at hflag
        exact hflag
      have hquiet := ConfigSource.registers_eq_false_of_idle hidle hsettings
      obtain ⟨hregistries, hgiven, hmade⟩ := hprepared.of_idle hidle hclient
      obtain ⟨houtside, hmanagers, client, hpresent, hclientQuiet, hthread⟩ :=
        Action.unseen_connect hquiet hconnect
      change built.outside = ready.outside at houtside
      change built.managers = ready.managers at hmanagers
      rw [← hmanagers] at hgiven hmade
      have hoverlooked : Deployment.Overlooked (plan.member options policy number manager).client
          client built built := .refl hpresent
      have hcalls := hoverlooked.calls hidle hclientQuiet hthread
      exact {
        registers := hidle.registers
        given := hgiven
        made := hmade
        connected := ⟨settings, ready, hregistries, hconnect, houtside⟩
        record := fun calls => (hcalls calls).records manager
        requests := ⟨client, hpresent, fun calls => (hcalls calls).seen⟩
        operations := fun calls => (hcalls calls).onlyLookups }

/-- A member with a local node that is not to register. -/
def MemberPlan.sampleOnlooker : MemberPlan :=
  { MemberPlan.sample with
    options := Table.ofList [(OptionDefinition.useMetadata.key, .flag true),
      (OptionDefinition.selfRegistration.key, .flag false)] }

theorem MemberPlan.sample_onlooker :
    ∃ member built, sampleOnlooker.build.exec sampleStart = (.ok member, built) ∧
      member.Onlooker sampleOnlooker sampleStart built := by
  obtain ⟨member, built, hbuild, -⟩ := exists_of_builds
    (show sampleOnlooker.builds sampleStart (fun _ _ => true) = true by decide +kernel)
  exact ⟨member, built, hbuild, onlooker_of_build rfl (.inr (by decide +kernel)) hbuild⟩

end MemberDiscovery
