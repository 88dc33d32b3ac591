import MemberDiscovery.Proofs.Deployment.Ending
import MemberDiscovery.Proofs.Discovery.Announcement
import MemberDiscovery.Proofs.Discovery.Invariants
import MemberDiscovery.Proofs.Discovery.Lifecycle

/-! # Leaving for good

What others see when a client ends and when a member leaves, and that they see nothing of either
afterwards (`Deployment.Reachable.ends_for_good`): not even heartbeats, though a client that
registers has a thread for them until then. A member whose client registers takes leave with one
round in which its record is down, if the client listens and the record was not down already, and
with one round in which the record is taken back.
-/

namespace MemberDiscovery

/-- The round of requests in which a client registers a record. -/
def RegistryClient.announce (client : RegistryClient) (record : Instance) :
    Action (Except ClientError Unit) :=
  failover (Action.submit (.register record)) client.transports

namespace StatusPolicy

/-- The policy is one of those that the library chooses from. -/
def IsBuiltIn (policy : StatusPolicy) : Prop :=
  ∀ registers, policy ≠ .noting registers

theorem IsBuiltIn.applies_eq {policy : StatusPolicy} (hpolicy : policy.IsBuiltIn) :
    policy.applies = policy.registers := by
  cases policy with
  | noting registers => exact absurd rfl (hpolicy registers)
  | _ => rfl

theorem isBuiltIn_of_applies {policy : StatusPolicy} (happlies : policy.applies = true) :
    policy.IsBuiltIn := by
  rintro registers rfl
  cases happlies

variable {policy : StatusPolicy} {manager : Nat} {deployment : Deployment}

/-- A policy is not seen by others where no client listens. -/
theorem outside_apply_of_publishers_eq_nil
    (hpublishers : (deployment.managers.get manager).publishers = []) (policy : StatusPolicy)
    (status : InstanceStatus) :
    ((policy.apply manager status).exec deployment).2.outside = deployment.outside := by
  cases happlies : policy.applies with
  | true =>
      rw [exec_apply_of_applies happlies, Action.outside_setStatus_of_publishers_eq_nil]
      · rfl
      · simpa [InstanceManager.publishers] using hpublishers
  | false =>
      cases policy with
      | disabled => rfl
      | forwarding => cases happlies
      | publishing address selfRegistration groupName =>
          obtain rfl : selfRegistration = false := happlies
          rfl
      | noting registers => exact Deployment.outside_note rfl

/-- Nor is it where the record has the status already. -/
theorem outside_apply_of_eq {status : InstanceStatus} (happlies : policy.applies = true)
    (hstatus : (deployment.managers.get manager).record.status = status) :
    ((policy.apply manager status).exec deployment).2.outside = deployment.outside := by
  rw [exec_apply_of_applies happlies, Action.exec_setStatus_of_eq]
  · rfl
  · simpa using hstatus

theorem outside_apply_of_publisher {number : Nat} {client : RegistryClient}
    {status : InstanceStatus}
    (hpublishers : (deployment.managers.get manager).publishers = [number])
    (hclient : deployment.clients.get number = .registry client)
    (hmanager : client.manager = manager) (hlive : client.isShutDown = false)
    (happlies : policy.applies = true)
    (hstatus : (deployment.managers.get manager).record.status ≠ status) :
    ((policy.apply manager status).exec deployment).2.outside =
      ((client.announce (policy.restated deployment.clock status
        (deployment.managers.get manager)).record).exec deployment).2.outside := by
  let prepared := deployment.setManager manager
    (policy.prepared deployment.clock (deployment.managers.get manager))
  have hrecord : ((prepared.managers.get manager).setStatus prepared.clock status).2 =
      policy.restated deployment.clock status (deployment.managers.get manager) := by
    simp [prepared, restated, happlies, Deployment.setManager]
  have hprepared : (prepared.managers.get manager).publishers = [number] := by
    simpa [prepared, InstanceManager.publishers] using hpublishers
  rw [exec_apply_of_applies happlies, Action.outside_setStatus_of_publisher hprepared hclient
    hmanager hlive (by simpa [prepared] using hstatus), hrecord]
  exact (Action.Respects.failover _ _ prepared deployment rfl).2

end StatusPolicy

namespace Deployment

/-- Time passes as in so many pauses between lookups. -/
def pauses : Nat → Deployment → Deployment
  | 0, deployment => deployment
  | count + 1, deployment => pauses count (deployment.sleep Member.discoveryPause)

/-- The only client of a record is the only one that can be told about it. -/
theorem Sound.publishers_of_onlyClient {deployment : Deployment} (hsound : deployment.Sound)
    {manager number : Nat} (honly : deployment.OnlyClient manager number) :
    (deployment.managers.get manager).publishers =
      if deployment.Listens manager number then [number] else [] := by
  rw [InstanceManager.publishers_eq (hsound.clientsShareId manager)]
  by_cases hlistens : deployment.Listens manager number
  · rw [if_pos hlistens, show _ = some (Listener.client number) from hlistens]
    rfl
  · rw [if_neg hlistens]
    cases hlistener :
        (deployment.managers.get manager).listeners.get? Action.clientListenerId with
    | none => rfl
    | some listener =>
        cases listener with
        | observer tag => rfl
        | client other =>
            obtain ⟨-, hother, client, hclient, hmanager⟩ := hsound.listening _ _ _ hlistener
            obtain rfl := honly other client hother hclient hmanager
            exact absurd hlistener hlistens

end Deployment

namespace Member

variable {member : Member} {client : RegistryClient} {before : Deployment}

/-- What a policy leaves as it is. -/
theorem apply_keeps (member : Member) (status : InstanceStatus) (before : Deployment) :
    let after := ((member.policy.apply member.manager status).exec before).2
    after.clients = before.clients ∧
      (after.managers.get member.manager).record.app =
        (before.managers.get member.manager).record.app ∧
      (after.managers.get member.manager).record.id =
        (before.managers.get member.manager).record.id := by
  have hlasting : Action.Lasting fun deployment : Deployment =>
      deployment.clients = before.clients ∧
        (deployment.managers.get member.manager).record.app =
          (before.managers.get member.manager).record.app ∧
        (deployment.managers.get member.manager).record.id =
          (before.managers.get member.manager).record.id := by
    refine ⟨fun _ _ _ hsame => hsame, fun _ _ _ hsame => hsame, ?_⟩
    intro deployment number state _ happ hid ⟨hclients, hsameApp, hsameId⟩
    refine ⟨hclients, ?_⟩
    simp only [Deployment.managers_setManager, Slots.get_set]
    split
    next heq =>
      subst heq
      exact ⟨happ.trans hsameApp, hid.trans hsameId⟩
    next => exact ⟨hsameApp, hsameId⟩
  exact member.policy.keeps_apply hlasting member.manager status before ⟨rfl, rfl, rfl⟩

/-- Leaving is seen as what is seen of the policy and then, if the client registers, as a round in
which the record is taken back. -/
theorem outside_destroy (hclient : before.clients.get member.client = .registry client)
    (hmanager : client.manager = member.manager) (hlive : client.isShutDown = false)
    (hregisters : client.settings.registers = true) :
    (member.destroy.exec before).2.outside =
      ((client.takeBack (before.managers.get member.manager).record).exec
        ((member.policy.apply member.manager .down).exec before).2).2.outside := by
  obtain ⟨hclients, happ, hid⟩ := member.apply_keeps .down before
  rw [exec_destroy, Action.outside_shutDown (by rw [hclients]; exact hclient) hlive,
    if_pos hregisters, hmanager, happ, hid]
  rfl

/-- A member whose client registers leaves with a round in which its record is down, if that is a
change and the client is told, and then with one in which the record is taken back. -/
theorem outside_destroy_of_registers (hsound : before.Sound)
    (hclient : before.clients.get member.client = .registry client)
    (hmanager : client.manager = member.manager) (hlive : client.isShutDown = false)
    (hregisters : client.settings.registers = true) (happlies : member.policy.applies = true)
    (honly : before.OnlyClient member.manager member.client) :
    ∃ record : Instance, record.status = .down ∧
      record.app = (before.managers.get member.manager).record.app ∧
      record.id = (before.managers.get member.manager).record.id ∧
      (member.destroy.exec before).2.outside =
        if before.Listens member.manager member.client ∧
            (before.managers.get member.manager).record.status ≠ .down then
          ((do
            let _ ← client.announce record
            client.takeBack (before.managers.get member.manager).record).exec before).2.outside
        else
          ((client.takeBack (before.managers.get member.manager).record).exec
            before).2.outside := by
  let changed := member.policy.restated before.clock .down (before.managers.get member.manager)
  have hpublishers := hsound.publishers_of_onlyClient honly
  refine ⟨changed.record, ?_, by simp [changed], by simp [changed], ?_⟩
  · simp [changed, StatusPolicy.restated, happlies]
  rw [outside_destroy hclient hmanager hlive hregisters]
  split
  next htold =>
    obtain ⟨hlistens, hstatus⟩ := htold
    rw [if_pos hlistens] at hpublishers
    have hannounced := StatusPolicy.outside_apply_of_publisher hpublishers hclient hmanager hlive
      happlies hstatus
    exact (Action.Respects.failover _ _ _ _ hannounced).2
  next htold =>
    refine (Action.Respects.failover _ _ _ _ ?_).2
    by_cases hstatus : (before.managers.get member.manager).record.status = .down
    · exact StatusPolicy.outside_apply_of_eq happlies hstatus
    · have hsilent : ¬ before.Listens member.manager member.client := fun hlistens =>
        htold ⟨hlistens, hstatus⟩
      rw [if_neg hsilent] at hpublishers
      exact StatusPolicy.outside_apply_of_publishers_eq_nil hpublishers _ _

end Member

/-! ## A member whose client has ended -/

/-- What may be done with a member, and what the thread of its client may do. -/
inductive MemberStep where
  | start
  | discover
  | destroy
  | beat (waited : Nat)
  deriving DecidableEq

/-- What a member answers. -/
inductive MemberAnswer where
  /-- It has started or has failed to; `none` if it is still waiting for its registration. -/
  | started (answer : Option (Except DiscoveryError Unit))
  | found (answer : Except DiscoveryError (List Node))
  | left
  /-- Nobody is told about a heartbeat. -/
  | silent

namespace MemberStep

def action (member : Member) : MemberStep → Action MemberAnswer
  | .start => do return .started (← member.start)
  | .discover => do return .found (← member.discover)
  | .destroy => do member.destroy; return .left
  | .beat waited => do Action.beat member.client waited; return .silent

/-- The answer of a member that does not wait for its registration and whose client has ended. -/
def lonely : MemberStep → MemberAnswer
  | .start => .started (some (.ok ()))
  | .discover => .found (.ok [])
  | .destroy => .left
  | .beat _ => .silent

/-- Others only see that time passes, and that only while the member looks for others. -/
def pass (deployment : Deployment) : MemberStep → Deployment
  | .discover => deployment.pauses (Member.discoveryRounds - 1)
  | .start | .destroy | .beat _ => deployment

end MemberStep

/-- Whatever is done with a member and whatever the thread of its client is left to do, it finds
nobody, and others see only that time passes. -/
def Deployment.Forsaken (member : Member) (deployment : Deployment) : Prop :=
  ∀ steps : List MemberStep, (.start ∈ steps → member.skipsVerification = true) →
    ((steps.mapM (MemberStep.action member)).exec deployment).1 = steps.map MemberStep.lonely ∧
      ((steps.mapM (MemberStep.action member)).exec deployment).2.outside =
        (steps.foldl MemberStep.pass deployment).outside

/-- The member leaves, and the thread of its client, while it is waited for, wakes up after so many
seconds each. -/
def Member.leaveDuring (member : Member) (client : RegistryClient) (waits : List Nat) :
    Action Unit := do
  member.policy.apply member.manager .down
  client.endDuring member.client waits

namespace Deployment.Ended

variable {manager number : Nat} {deployment other : Deployment}

theorem sleep (hended : deployment.Ended manager number) (milliseconds : Nat) :
    (deployment.sleep milliseconds).Ended manager number := by
  obtain ⟨hclients, hmanagers⟩ := deployment.own_sleep milliseconds
  exact hended.congr hclients (by rw [hmanagers])

/-- With a client that has ended nothing is found, however often it is asked. -/
theorem exec_findApplication (hended : deployment.Ended manager number) (app : String)
    (attempt left : Nat) (hsame : deployment.outside = other.outside) :
    ((Member.findApplication number app attempt left).exec deployment).1 = .ok none ∧
      ((Member.findApplication number app attempt left).exec deployment).2.outside =
        (other.pauses (left - 1)).outside ∧
      ((Member.findApplication number app attempt left).exec deployment).2.Ended manager
        number := by
  induction left generalizing attempt deployment other with
  | zero => exact ⟨rfl, hsame, hended⟩
  | succ left ih =>
      let noted := ((Member.noteFailure attempt app .shutDown).exec deployment).2
      have hnoted : noted.Ended manager number := hended.congr rfl rfl
      have hseen : noted.outside = other.outside := (outside_note_logged _ _ _).trans hsame
      have hexec : (Member.findApplication number app attempt (left + 1)).exec deployment =
          (Member.pauseDiscovery left
            (Member.findApplication number app (attempt + 1) left)).exec noted := by
        rw [Member.findApplication, Action.exec_bind, hended.exec_lookup]
        rfl
      rw [hexec, Member.pauseDiscovery, Nat.add_sub_cancel]
      cases left with
      | zero => exact ⟨rfl, hseen, hnoted⟩
      | succ rest =>
          rw [if_pos (Nat.succ_pos rest), Action.exec_bind, Action.exec_modify]
          exact ih (hnoted.sleep _) (attempt + 1) (outside_sleep hseen _)

/-- What is done with a member whose client has ended is seen by others as time that passes. -/
theorem memberStep {member : Member} (hended : deployment.Ended member.manager member.client)
    (step : MemberStep) (hskips : step = .start → member.skipsVerification = true)
    (hsame : deployment.outside = other.outside) :
    ((step.action member).exec deployment).1 = step.lonely ∧
      ((step.action member).exec deployment).2.outside = (step.pass other).outside ∧
      ((step.action member).exec deployment).2.Ended member.manager member.client := by
  have happlied (status : InstanceStatus) :
      ((member.policy.apply member.manager status).exec deployment).2.outside = other.outside ∧
        ((member.policy.apply member.manager status).exec deployment).2.Ended member.manager
          member.client :=
    ⟨(StatusPolicy.outside_apply_of_publishers_eq_nil hended.publishers _ _).trans hsame,
      member.policy.keeps_apply lasting member.manager status deployment hended⟩
  cases step with
  | start =>
      obtain ⟨houtside, hafter⟩ := happlied .up
      rw [MemberStep.action, Action.exec_bind, member.exec_start_of_skips deployment (hskips rfl)]
      exact ⟨rfl, (outside_note_logged _ _ _).trans houtside, hafter.congr rfl rfl⟩
  | discover =>
      obtain ⟨hanswer, houtside, hafter⟩ := hended.exec_findApplication
        (deployment.managers.get member.manager).config.appName 1 Member.discoveryRounds hsame
      rw [MemberStep.action, Action.exec_bind, Member.discover, Action.exec_bind,
        member.exec_appName, Action.exec_bind, hanswer]
      exact ⟨rfl, houtside, hafter⟩
  | destroy =>
      obtain ⟨houtside, hafter⟩ := happlied .down
      rw [MemberStep.action, Action.exec_bind, member.exec_destroy, hafter.exec_shutDown]
      exact ⟨rfl, houtside, hafter⟩
  | beat waited =>
      rw [MemberStep.action, Action.exec_bind, hended.exec_beat]
      exact ⟨rfl, hsame, hended⟩

theorem memberRun {member : Member} (hended : deployment.Ended member.manager member.client)
    (steps : List MemberStep) (hskips : .start ∈ steps → member.skipsVerification = true)
    (hsame : deployment.outside = other.outside) :
    ((steps.mapM (MemberStep.action member)).exec deployment).1 = steps.map MemberStep.lonely ∧
      ((steps.mapM (MemberStep.action member)).exec deployment).2.outside =
        (steps.foldl MemberStep.pass other).outside := by
  induction steps generalizing deployment other with
  | nil => exact ⟨rfl, hsame⟩
  | cons step rest ih =>
      obtain ⟨hanswer, houtside, hafter⟩ := hended.memberStep step
        (fun hstep => hskips (by rw [hstep]; exact List.mem_cons_self)) hsame
      obtain ⟨hanswers, hrest⟩ := ih hafter
        (fun hmem => hskips (List.mem_cons_of_mem _ hmem)) houtside
      rw [List.mapM_cons, Action.exec_bind, Action.exec_bind, Action.exec_pure, hanswer, hanswers]
      exact ⟨rfl, hrest⟩

theorem forsaken {member : Member} (hended : deployment.Ended member.manager member.client) :
    deployment.Forsaken member := fun steps hskips =>
  hended.memberRun steps hskips rfl

end Deployment.Ended

/-! ## The last that is seen -/

/-- A client that is made for a member registers only if the policy of the member does. -/
theorem ConfigSource.registers_of_clientSettings {source : ConfigSource} {scopeName : String}
    {registers : Bool} {settings : ClientSettings}
    (hsettings : source.clientSettings scopeName registers = .ok settings)
    (hregisters : settings.registers = true) : registers = true := by
  cases source with
  | resource properties =>
      simp only [clientSettings] at hsettings
      cases hread : ClientSettings.ofProperties scopeName properties with
      | error error =>
          rw [hread] at hsettings
          cases hsettings
      | ok read =>
          rw [hread] at hsettings
          cases hsettings
          exact hregisters
  | options forInstance forClient dataCenter appName =>
      simp only [clientSettings] at hsettings
      cases hread : ClientSettings.ofProperties scopeName forClient with
      | error error =>
          rw [hread] at hsettings
          cases hsettings
      | ok read =>
          rw [hread] at hsettings
          cases hsettings
          exact (Bool.and_eq_true_iff.mp hregisters).2

/-- A client that is made with a member is made for the member's record. -/
theorem MemberPlan.hasClient_of_build {plan : MemberPlan} {before built : Deployment}
    {member : Member} (hclient : plan.client = none)
    (hbuild : plan.build.exec before = (.ok member, built)) :
    ∃ client : RegistryClient, built.HasClient member.client client ∧
      client.manager = member.manager ∧
      (client.settings.registers = true → member.policy.registers = true) := by
  have houtcome := plan.exec_build before
  rw [hbuild] at houtcome
  cases houtcome with
  | given options policy number manager hoptions hpolicy hgiven =>
      rw [hclient] at hgiven
      cases hgiven
  | connected options policy source settings number manager ready _ hoptions hpolicy _ hsource
      hprepared hsettings hconnect =>
      obtain ⟨-, rfl, transports, -, hclients⟩ := Action.clients_of_connect hconnect
      change built.clients = _ at hclients
      refine ⟨.fresh manager settings transports (ready.managers.get manager).record,
        ⟨?_, .inl ?_⟩, rfl, ConfigSource.registers_of_clientSettings hsettings⟩
      · simp [hclients, MemberPlan.member]
      · simp [hclients, MemberPlan.member]

namespace Deployment

/-- What others see of a member that leaves, and that it is the last that they see of the member. -/
structure LastLeave (member : Member) (client : RegistryClient) (before : Deployment) : Prop where
  farewell : client.settings.registers = true →
    ∃ record : Instance, record.status = .down ∧
      record.app = (before.managers.get member.manager).record.app ∧
      record.id = (before.managers.get member.manager).record.id ∧
      (member.destroy.exec before).2.outside =
        if before.Listens member.manager member.client ∧
            (before.managers.get member.manager).record.status ≠ .down then
          ((do
            let _ ← client.announce record
            client.takeBack (before.managers.get member.manager).record).exec before).2.outside
        else
          ((client.takeBack (before.managers.get member.manager).record).exec before).2.outside
  silent : (member.destroy.exec before).2.Forsaken member
  /-- Heartbeats that are due while the thread is waited for are seen before the record is taken
  back, and none is seen afterwards. -/
  overtaken : ∀ waits : List Nat,
    ((member.leaveDuring client waits).exec before).2.outside =
        ((do
          member.policy.apply member.manager .down
          waits.forM (Action.beat member.client)
          Action.shutDown member.client).exec before).2.outside ∧
      ((member.leaveDuring client waits).exec before).2.Forsaken member

theorem Sound.lastLeave {member : Member} {client : RegistryClient} {before : Deployment}
    (hsound : before.Sound) (hclient : before.clients.get member.client = .registry client)
    (hmanager : client.manager = member.manager) (hlive : client.isShutDown = false)
    (happlies : client.settings.registers = true → member.policy.applies = true)
    (honly : before.OnlyClient member.manager member.client) :
    LastLeave member client before := by
  let down := ((member.policy.apply member.manager .down).exec before).2
  have hready : down.Sound :=
    member.policy.keeps_apply Sound.lasting member.manager .down before hsound
  have hdown : down.clients.get member.client = .registry client :=
    (congrArg (·.get member.client) (member.apply_keeps .down before).1).trans hclient
  constructor
  case farewell =>
    intro hregisters
    exact Member.outside_destroy_of_registers hsound hclient hmanager hlive hregisters
      (happlies hregisters) honly
  case silent =>
    have hended := Ended.of_shutDown hready hdown hlive
    rw [← member.exec_destroy, hmanager] at hended
    exact hended.forsaken
  case overtaken =>
    intro waits
    refine ⟨RegistryClient.outside_endDuring hdown hlive waits, ?_⟩
    have hended : ((member.leaveDuring client waits).exec before).2.Ended client.manager
        member.client := Ended.of_endDuring hready client waits
    rw [hmanager] at hended
    exact hended.forsaken

/-- The first end of a client is the last that others see of it. The same holds of a member that
owns its client and leaves before that client has ended otherwise. Unless somebody has put himself
in the place of the client among the listeners of the record or has removed it, the client is told
that the record is down. -/
theorem Reachable.ends_for_good {deployment : Deployment} (hreachable : deployment.Reachable) :
    (∀ number client, deployment.clients.get number = .registry client →
      client.isShutDown = false → deployment.LastEnd number client) ∧
    ∀ (plan : MemberPlan) (member : Member) (built : Deployment), plan.client = none →
      plan.build.exec deployment = (.ok member, built) → member.policy.IsBuiltIn →
      ∀ run : List ProcessStep,
        let leaving := run.foldl ProcessStep.after built
        ∀ client, leaving.clients.get member.client = .registry client →
          client.isShutDown = false → leaving.OnlyClient member.manager member.client →
            leaving.LastLeave member client ∧
              (client.settings.registers = true →
                (∀ manager, plan.manager = some manager → manager < deployment.managers.size) →
                (∀ step ∈ run, step.Spares member.manager) →
                  leaving.Listens member.manager member.client) := by
  constructor
  · intro number client hclient hlive
    exact hreachable.sound.lastEnd (fun registry => hreachable.distinct registry) hclient hlive
      (hreachable.thread_of_live hclient hlive)
  · intro plan member built hnone hbuild hpolicy run leaving client hclient hlive honly
    have hbuilt := hreachable.build hbuild
    obtain ⟨made, hhas, hmanager, hregisters⟩ := MemberPlan.hasClient_of_build hnone hbuild
    have hmade : client = made := by
      obtain ⟨-, hmade | hended⟩ := (hasClient_invariant _ _).run hhas run
      · exact Client.registry.inj (hclient.symm.trans hmade)
      · obtain rfl := Client.registry.inj (hclient.symm.trans hended)
        cases hlive
    subst hmade
    constructor
    · refine (hbuilt.run run).sound.lastLeave hclient hmanager hlive ?_ honly
      intro hclientRegisters
      rw [hpolicy.applies_eq]
      exact hregisters hclientRegisters
    · intro hclientRegisters hgiven hspares
      have htold := (MemberPlan.told_of_build hreachable hnone hgiven hbuild).run hspares
      exact htold.listens client hclient hclientRegisters hlive honly

end Deployment

/-- A member that is built with the only client of its process and leaves after a heartbeat. -/
theorem MemberPlan.sample_ends_for_good :
    ∃ member built client, sample.build.exec sampleStart = (.ok member, built) ∧
      client.settings.registers = true ∧
      let leaving := ProcessStep.after built (.beat member.client 30)
      leaving.LastEnd member.client client ∧ leaving.LastLeave member client ∧
        leaving.Listens member.manager member.client := by
  have hbuilds : sample.builds sampleStart (fun member built =>
      (built.clients.get member.client).speaks (fun client =>
        decide (client.settings.registers = true ∧ client.isShutDown = false)) &&
      decide (built.clients.size = 1 ∧ member.client = 0 ∧ member.policy.applies = true)) =
        true := by
    decide +kernel
  obtain ⟨member, built, hbuild, htest⟩ := exists_of_builds hbuilds
  rw [Bool.and_eq_true, decide_eq_true_eq] at htest
  obtain ⟨hspeaks, hsize, hnumber, happlies⟩ := htest
  obtain ⟨client, hclient, hsettled⟩ := Client.exists_of_speaks hspeaks
  obtain ⟨hregisters, hlive⟩ := of_decide_eq_true hsettled
  have hstart : sampleStart.Reachable := .step (.start 0 ⟨"host", "10.0.0.9"⟩ toString) .addRegistry
  have hleaving := (hstart.build hbuild).step (.beat member.client 30)
  have hclients : (ProcessStep.after built (.beat member.client 30)).clients = built.clients :=
    (Action.own_beat member.manager member.client 30 built).1
  rw [← hclients] at hclient hsize
  have honly : (ProcessStep.after built (.beat member.client 30)).OnlyClient member.manager
      member.client := by
    intro other _ hother _ _
    omega
  obtain ⟨hleave, hlistens⟩ := hstart.ends_for_good.2 sample member built rfl hbuild
    (StatusPolicy.isBuiltIn_of_applies happlies) [.beat member.client 30] client hclient hlive honly
  refine ⟨member, built, client, hbuild, hregisters,
    hleaving.ends_for_good.1 member.client client hclient hlive, hleave,
    hlistens hregisters nofun ?_⟩
  intro step hmem
  rw [List.mem_singleton.mp hmem]
  trivial

/-- A member whose client was ended before leaves unseen. One whose client was taken from the
listeners of the record goes down unseen and takes the record back. -/
theorem leaves_unannounced :
    ∃ member built client,
      MemberPlan.sample.build.exec MemberPlan.sampleStart = (.ok member, built) ∧
        member.policy.IsBuiltIn ∧ built.clients.get member.client = .registry client ∧
        client.settings.registers = true ∧
        let ended := ProcessStep.after built (.shutDown member.client)
        let unheard := ProcessStep.after built (.unlisten member.manager Action.clientListenerId)
        ended.OnlyClient member.manager member.client ∧
          (ended.managers.get member.manager).record.status ≠ .down ∧
          ((member.destroy.exec ended).2.registries.get 0).operations =
            (ended.registries.get 0).operations ∧
          unheard.OnlyClient member.manager member.client ∧
          unheard.clients.get member.client = .registry client ∧ client.isShutDown = false ∧
          (unheard.managers.get member.manager).record.status ≠ .down ∧
          ((member.destroy.exec unheard).2.registries.get 0).operations =
            (unheard.registries.get 0).operations ++
              [.cancel (unheard.managers.get member.manager).record.app
                (unheard.managers.get member.manager).record.id] := by
  have hbuilds : MemberPlan.sample.builds MemberPlan.sampleStart (fun member built =>
      let ended := ProcessStep.after built (.shutDown member.client)
      let unheard := ProcessStep.after built (.unlisten member.manager Action.clientListenerId)
      (built.clients.get member.client).speaks (fun client =>
        decide (client.isShutDown = false ∧ client.settings.registers = true)) &&
      decide (member.client = 0 ∧ member.policy.applies = true ∧
        ended.clients.size = 1 ∧
        (ended.managers.get member.manager).record.status ≠ .down ∧
        ((member.destroy.exec ended).2.registries.get 0).operations =
          (ended.registries.get 0).operations ∧
        unheard.clients.size = 1 ∧
        (unheard.managers.get member.manager).record.status ≠ .down ∧
        ((member.destroy.exec unheard).2.registries.get 0).operations =
          (unheard.registries.get 0).operations ++
            [.cancel (unheard.managers.get member.manager).record.app
              (unheard.managers.get member.manager).record.id])) = true := by
    decide +kernel
  obtain ⟨member, built, hbuild, htest⟩ := MemberPlan.exists_of_builds hbuilds
  rw [Bool.and_eq_true, decide_eq_true_eq] at htest
  obtain ⟨hspeaks, hnumber, happlies, hended, hendedStatus, hnothing, hunheard, hunheardStatus,
    hoperations⟩ := htest
  obtain ⟨client, hclient, hsettled⟩ := Client.exists_of_speaks hspeaks
  obtain ⟨hlive, hregisters⟩ := of_decide_eq_true hsettled
  refine ⟨member, built, client, hbuild, StatusPolicy.isBuiltIn_of_applies happlies, hclient,
    hregisters, ?_, hendedStatus, hnothing, ?_, hclient, hlive, hunheardStatus, hoperations⟩
  · intro other _ hother _ _
    omega
  · intro other _ hother _ _
    omega

end MemberDiscovery
