import MemberDiscovery.Proofs.Discovery.Building
import MemberDiscovery.Proofs.Discovery.Enrollment

/-! # Members that join an application

`MemberPlan.Joins` lists what a plan has to say for its member to join an application in a registry:
the member makes its record and its client, has a local node and registers itself, and the
configuration names the application. A member that is built from such a plan has a copy of its
record in the registry after those of the members before it.
-/

namespace MemberDiscovery

namespace MemberPlan

variable (plan : MemberPlan) (deployment : Deployment)

/-- Whether addresses and groups are in the metadata. -/
def usesMetadata : Bool :=
  match MemberOptions.read (plan.lookup deployment) with
  | .ok options => options.usesMetadata
  | .error _ => false

/-- How the member of the plan takes records for candidates. -/
def rule : CandidateRule :=
  ⟨plan.usesMetadata deployment, plan.group, plan.resolver⟩

/-- What the member of the plan makes known of itself; nothing without a local node. -/
def profile? : Option Profile :=
  plan.node.map fun node =>
    ⟨node.privateAddress, if plan.usesMetadata deployment then some plan.group else none⟩

end MemberPlan

/-- The configuration names the application, but no group in the metadata, and does not switch off
registration or registry fetching. -/
structure ConfigSource.Joins (source : ConfigSource) (scopeName app : String) (machine : Machine) :
    Prop where
  record : ∀ config,
    InstanceConfig.ofScope machine ((source.forRecord scopeName).1.scope scopeName) = .ok config →
      (source.forRecord scopeName).2.2.getD config.appName = app ∧
        config.metadata.get? MetadataKeys.groupName = none
  client : ∀ settings, source.clientSettings scopeName true = .ok settings →
    settings.registers = true ∧ settings.fetches = true

/-- A plan whose member joins an application in a registry with a record and a client of its own. -/
structure MemberPlan.Joins (registry : Nat) (app : String) (deployment : Deployment)
    (plan : MemberPlan) : Prop where
  client : plan.client = none
  manager : plan.manager = none
  policy : plan.policy = none
  transport : plan.transport = some (.memory registry)
  node : ∃ node, plan.node = some node ∧ node.privateAddress.port ≠ 0
  selfRegistration : ∀ options, MemberOptions.read (plan.lookup deployment) = .ok options →
    options.selfRegistration = true
  source : ∀ options source, MemberOptions.read (plan.lookup deployment) = .ok options →
    plan.loadSource (plan.lookup deployment) options deployment = .ok source →
      source.Joins options.scopeName app deployment.machine

namespace MemberPlan

open Deployment (Frame SameProcess)

variable {plan : MemberPlan} {registry : Nat} {app : String} {start before after : Deployment}

/-- Reading options and configuration depends on the surroundings only. -/
theorem lookup_congr (plan : MemberPlan) (hprocess : start.SameProcess before) :
    plan.lookup before = plan.lookup start := by
  simp only [lookup, Deployment.environment, hprocess.processVariables]

theorem loadSource_congr (plan : MemberPlan) (hprocess : start.SameProcess before)
    (lookup : OptionLookup) (options : MemberOptions) :
    plan.loadSource lookup options before = plan.loadSource lookup options start := by
  simp only [loadSource, Deployment.environment, hprocess.processVariables, hprocess.files]

theorem usesMetadata_of_read {options : MemberOptions}
    (hoptions : MemberOptions.read (plan.lookup start) = .ok options) :
    plan.usesMetadata start = options.usesMetadata := by
  simp only [usesMetadata, hoptions]

/-- A manager is given or new. -/
theorem Prepared.frame {scopeName : String} {policy : StatusPolicy} {source : ConfigSource}
    {manager : Nat} {ready : Deployment}
    (hprepared : plan.Prepared scopeName policy source before manager ready) (client : Nat) :
    Frame before.managers.size client before ready ∧ ready.registries = before.registries := by
  cases hprepared with
  | given => exact ⟨.refl _ _ _, rfl⟩
  | made config network trace =>
      exact ⟨(Frame.addManager client before _).elsewhere (Nat.le_succ _) _ _ _, rfl⟩

theorem Prepared.of_made {scopeName : String} {policy : StatusPolicy} {source : ConfigSource}
    {manager : Nat} {ready : Deployment}
    (hprepared : plan.Prepared scopeName policy source before manager ready)
    (hgiven : plan.givenManager before = none) :
    ∃ config, manager = before.managers.size ∧
      ready.clients = before.clients ∧ ready.idsDrawn = before.idsDrawn + 1 ∧
      ready.managers.size = before.managers.size + 1 ∧
      plan.Configured scopeName source before.machine (before.idSource before.idsDrawn) config ∧
      ready.managers.get manager =
        policy.restated before.clock .starting (.ofConfig config before.clock) := by
  cases hprepared with
  | given _ hsome =>
      rw [hgiven] at hsome
      cases hsome
  | made config network trace _ hconfig =>
      refine ⟨config, rfl, rfl, rfl, rfl, hconfig, ?_⟩
      simp

/-- Nothing that others have is changed when a member cannot be built that is given no client. -/
theorem frame_of_outcome_error {factory : TransportFactory} {error : DiscoveryError}
    (hnone : plan.client = none) (houtcome : plan.Outcome factory before (.error error) after) :
    Frame before.managers.size before.clients.size before after ∧
      after.registries = before.registries := by
  cases houtcome with
  | unread => exact ⟨(Frame.refl _ _ before).elsewhere (Nat.le_refl _) _ _ _, rfl⟩
  | refused _ client hclient =>
      rw [hnone] at hclient
      cases hclient
  | unconnected _ scopeName policy source manager _ _ hprepared => exact hprepared.frame _

namespace Joins

/-- The policy of a member that joins is that of its profile. -/
theorem policy_eq (hjoins : plan.Joins registry app start) {options : MemberOptions}
    {policy : StatusPolicy} (hoptions : MemberOptions.read (plan.lookup start) = .ok options)
    (hpolicy : plan.choosePolicy options = .ok policy) :
    ∃ profile, plan.profile? start = some profile ∧ profile.address.port ≠ 0 ∧
      (∀ node, plan.node = some node → profile.address = node.privateAddress) ∧
      policy = profile.policy := by
  obtain ⟨node, hnode, hport⟩ := hjoins.node
  have hself := hjoins.selfRegistration options hoptions
  refine ⟨_, by rw [profile?, hnode, Option.map_some], hport, ?_, ?_⟩
  · intro other hother
    rw [hnode] at hother
    exact congrArg Node.privateAddress (Option.some.inj hother)
  · rw [usesMetadata_of_read hoptions]
    cases hmode : options.usesMetadata with
    | false =>
        simp only [choosePolicy, hnode, hself, hmode, plannedPolicy, hjoins.policy, hjoins.client,
          Except.ok.injEq] at hpolicy
        exact hpolicy.symm
    | true =>
        rw [policy_of_usesMetadata hnode hmode hpolicy, hself]
        rfl

/-- The first record of a member that joins presents its profile. -/
theorem presents_ofConfig {scopeName id : String} {source : ConfigSource} {machine : Machine}
    {config : InstanceConfig} {profile : Profile} {node : Node}
    (hconfig : plan.Configured scopeName source machine id config)
    (hsource : source.Joins scopeName app machine) (hnode : plan.node = some node)
    (haddress : profile.address = node.privateAddress) (now : Timestamp) :
    (profile.policy.restated now .starting (.ofConfig config now)).config.appName = app ∧
      (profile.policy.restated now .starting (.ofConfig config now)).record.Presents app profile
        .starting := by
  obtain ⟨read, hread, happName, hmetadata⟩ := hconfig.read
  obtain ⟨happ, hgroup⟩ := hsource.record read hread
  obtain ⟨hport, hhost⟩ := hconfig.address node hnode
  rw [happ] at happName
  rw [← haddress] at hport hhost
  constructor
  · rw [StatusPolicy.restated_config]
    exact happName
  · apply Profile.presents_restated _ hhost hport
    · intro _
      exact (congrArg (fun metadata => metadata.get? MetadataKeys.groupName) hmetadata).trans hgroup
    · exact congrArg Text.upper happName

/-- A member that joins gets a copy of its record behind those that are there. -/
theorem build (hjoins : plan.Joins registry app start) (hprocess : start.SameProcess before)
    (hfailures : (before.registries.get registry).failures = [])
    (hnamed : before.idSource before.idsDrawn ≠ "") {member : Member}
    (hbuild : plan.build.exec before = (.ok member, after)) :
    Frame before.managers.size before.clients.size before after ∧
      member.manager = before.managers.size ∧ member.client = before.clients.size ∧
      member.manager < after.managers.size ∧ member.client < after.clients.size ∧
      member.rule = plan.rule start ∧
      (after.registries.get registry).failures = [] ∧
      ∃ profile copy, plan.profile? start = some profile ∧ profile.address.port ≠ 0 ∧
        copy.id = before.idSource before.idsDrawn ∧
        member.Enrolled registry app profile .starting after copy ∧
        (after.registries.get registry).members (Text.upper app) =
          Application.addTo copy ((before.registries.get registry).members (Text.upper app)) := by
  have houtcome := plan.exec_build before
  rw [hbuild] at houtcome
  cases houtcome with
  | given options policy client manager _ _ hgiven =>
      rw [hjoins.client] at hgiven
      cases hgiven
  | connected options policy source settings client manager ready _ hoptions hpolicy _ hsource
      hprepared hsettings hconnect =>
      -- What is read depends on the surroundings only, which are those of the start.
      rw [plan.lookup_congr hprocess] at hoptions hsource
      rw [plan.loadSource_congr hprocess] at hsource
      obtain ⟨profile, hprofile, hport, haddress, rfl⟩ := hjoins.policy_eq hoptions hpolicy
      have hjoined := hjoins.source options source hoptions hsource
      rw [hprocess.machine.symm] at hjoined
      obtain ⟨hregisters, hfetches⟩ := hjoined.client settings (by
        rwa [profile.registers_policy] at hsettings)
      obtain ⟨hframe, hregistries⟩ := hprepared.frame before.clients.size
      obtain ⟨config, rfl, hclients, hdrawn, hsize, hconfig, hmanager⟩ :=
        hprepared.of_made (by simp [givenManager, hjoins.client, hjoins.manager])
      obtain ⟨node, hnode, -⟩ := hjoins.node
      obtain ⟨happName, hpresents⟩ := presents_ofConfig hconfig hjoined hnode
        (haddress node hnode) before.clock
      rw [← hmanager] at happName hpresents
      have hready : (ready.registries.get registry).failures = [] := by
        rw [hregistries]
        exact hfailures
      have hid : (ready.managers.get before.managers.size).record.id =
          before.idSource before.idsDrawn := by
        rw [hmanager, StatusPolicy.restated_id]
        simp [InstanceManager.ofConfig, InstanceManager.ofRecord, Instance.ofConfig, Instance.new,
          Instance.id, hconfig.instanceId, hnamed]
      rw [hjoins.transport, Option.getD_some] at hconnect
      have hpublishers : (ready.managers.get before.managers.size).publishers = [] := by
        simp [hmanager, InstanceManager.publishers_ofConfig]
      have hdrawnId : ∃ number, number < ready.idsDrawn ∧
          (ready.managers.get before.managers.size).record.id = ready.idSource number := by
        rw [hdrawn, hframe.process.idSource]
        exact ⟨before.idsDrawn, Nat.lt_succ_self _, hid⟩
      obtain ⟨hclient, hless, hconnected, hleft, copy, hcopy, henrolled, hmembers⟩ :=
        Member.Enrolled.of_connect (plan.member options profile.policy client before.managers.size)
          rfl hregisters hfetches hready hpublishers happName hpresents hdrawnId hconnect
      rw [hregistries] at hmembers
      rw [hclients] at hclient
      have hmore := hconnected.managerCount
      rw [hsize] at hmore
      refine ⟨hframe.trans ?_, rfl, hclient, hmore, hless, ?_, hleft, profile, copy, hprofile,
        hport, hcopy.trans hid, henrolled, hmembers⟩
      · rw [← hclient]
        exact hconnected
      · rw [rule, usesMetadata_of_read hoptions]
        rfl

end Joins

end MemberPlan

end MemberDiscovery
