import MemberDiscovery.Discovery.Member
import MemberDiscovery.Proofs.Deployment.Exchanges
import MemberDiscovery.Proofs.Discovery.Policies

/-! # What the building of a member does

Building reads the options, makes the record that is missing, and connects the client that is
missing. `MemberPlan.Outcome` lists what may become of it, whatever makes the transports. Reading
the configuration of the record may ask the network; apart from that, a member that fails to be
built leaves at most a record that nobody listens to, unless a client was given that nobody else
holds: such a client ends.
-/

namespace MemberDiscovery

namespace MemberPlan

/-- The options together with what overrides them. -/
def lookup (plan : MemberPlan) (deployment : Deployment) : OptionLookup :=
  ⟨plan.options, plan.environment.getD deployment.environment⟩

/-- The member of a plan. -/
def member (plan : MemberPlan) (options : MemberOptions) (policy : StatusPolicy)
    (client manager : Nat) : Member where
  client
  manager
  policy
  rule := ⟨options.usesMetadata, plan.group, plan.resolver⟩
  scopeName := options.scopeName
  skipsVerification := options.skipsVerification

/-- What is known of the configuration that is made for the record of a member. -/
structure Configured (plan : MemberPlan) (scopeName : String) (source : ConfigSource)
    (machine : Machine) (id : String) (config : InstanceConfig) : Prop where
  instanceId : config.instanceId = some id
  address : ∀ node, plan.node = some node →
    config.port = Int32.ofNat node.privateAddress.port.toNat ∧
      config.ipAddress = node.privateAddress.host
  read : ∃ read,
    InstanceConfig.ofScope machine ((source.forRecord scopeName).1.scope scopeName) = .ok read ∧
      config.appName = (source.forRecord scopeName).2.2.getD read.appName ∧
      config.metadata = read.metadata

/-- A member's manager and the deployment in which its client is to be made. -/
inductive Prepared (plan : MemberPlan) (scopeName : String) (policy : StatusPolicy)
    (source : ConfigSource) (before : Deployment) : Nat → Deployment → Prop where
  /-- The manager is given, and nothing is made. -/
  | given (manager : Nat) (hgiven : plan.givenManager before = some manager) :
      Prepared plan scopeName policy source before manager before
  /-- The manager is made, and its record is starting as far as the policy says so. -/
  | made (config : InstanceConfig) (network : Network) (trace : List Event)
      (hgiven : plan.givenManager before = none)
      (hconfig : plan.Configured scopeName source before.machine
        (before.idSource before.idsDrawn) config)
      (hnoted : SetupNoted before.trace trace) :
      Prepared plan scopeName policy source before before.managers.size
        { before with
          idsDrawn := before.idsDrawn + 1
          managers := (before.managers.add
            (policy.restated before.clock .starting (.ofConfig config before.clock))).2
          network, trace }

/-- What may become of the parts of a member without a client. -/
inductive Parts (plan : MemberPlan) (factory : TransportFactory) (scopeName : String)
    (policy : StatusPolicy) (source : ConfigSource) (before : Deployment) :
    Except DiscoveryError (Nat × Nat) → Deployment → Prop where
  | unread (error : DiscoveryError) (network : Network) (trace : List Event)
      (hnoted : SetupNoted before.trace trace) :
      Parts plan factory scopeName policy source before (.error error)
        { before with network, trace }
  | unconnected (error : DiscoveryError) (manager : Nat) (ready : Deployment)
      (hprepared : plan.Prepared scopeName policy source before manager ready) :
      Parts plan factory scopeName policy source before (.error error) ready
  | connected (settings : ClientSettings) (manager client : Nat) (ready after : Deployment)
      (hprepared : plan.Prepared scopeName policy source before manager ready)
      (hsettings : source.clientSettings scopeName policy.registers = .ok settings)
      (hconnect : (Action.connectWith factory manager settings).exec ready =
        (.ok client, after)) :
      Parts plan factory scopeName policy source before (.ok (manager, client)) after

/-- What may become of the building of a member. -/
inductive Outcome (plan : MemberPlan) (factory : TransportFactory) (before : Deployment) :
    Except DiscoveryError Member → Deployment → Prop where
  /-- Options or configuration are no good. -/
  | unread (error : DiscoveryError) (network : Network) (trace : List Event)
      (hclient : plan.client = none) (hnoted : SetupNoted before.trace trace) :
      Outcome plan factory before (.error error) { before with network, trace }
  /-- The options are no good, and the given client is let go of. -/
  | refused (error : DiscoveryError) (client : Nat) (hclient : plan.client = some client) :
      Outcome plan factory before (.error error) (plan.discard.exec before).2
  /-- There is no client to be made. -/
  | unconnected (error : DiscoveryError) (scopeName : String) (policy : StatusPolicy)
      (source : ConfigSource) (manager : Nat) (ready : Deployment) (hclient : plan.client = none)
      (hprepared : plan.Prepared scopeName policy source before manager ready) :
      Outcome plan factory before (.error error) ready
  /-- Everything is given. -/
  | given (options : MemberOptions) (policy : StatusPolicy) (client manager : Nat)
      (hoptions : MemberOptions.read (plan.lookup before) = .ok options)
      (hpolicy : plan.choosePolicy options = .ok policy)
      (hclient : plan.client = some client) (hmanager : plan.givenManager before = some manager) :
      Outcome plan factory before (.ok (plan.member options policy client manager)) before
  /-- The client is made. -/
  | connected (options : MemberOptions) (policy : StatusPolicy) (source : ConfigSource)
      (settings : ClientSettings) (client manager : Nat) (ready after : Deployment)
      (hoptions : MemberOptions.read (plan.lookup before) = .ok options)
      (hpolicy : plan.choosePolicy options = .ok policy) (hclient : plan.client = none)
      (hsource : plan.loadSource (plan.lookup before) options before = .ok source)
      (hprepared : plan.Prepared options.scopeName policy source before manager ready)
      (hsettings : source.clientSettings options.scopeName policy.registers = .ok settings)
      (hconnect : (Action.connectWith factory manager settings).exec ready =
        (.ok client, after)) :
      Outcome plan factory before (.ok (plan.member options policy client manager)) after

variable {plan : MemberPlan} {factory : TransportFactory} {scopeName : String}
  {policy : StatusPolicy} {source : ConfigSource}

/-- In metadata mode the private address is published, if the member registers itself. -/
theorem policy_of_usesMetadata {options : MemberOptions} {node : Node}
    (hnode : plan.node = some node) (hmetadata : options.usesMetadata = true)
    (hpolicy : plan.choosePolicy options = .ok policy) :
    policy = .publishing node.privateAddress options.selfRegistration plan.group := by
  have hpublish : StatusPolicy.publish node.privateAddress options.selfRegistration plan.group =
      .ok policy := by
    cases hself : options.selfRegistration <;>
      simpa only [choosePolicy, hnode, hself, hmetadata] using hpolicy
  unfold StatusPolicy.publish at hpublish
  split at hpublish
  next => cases hpublish
  next =>
    split at hpublish
    next => cases hpublish
    next => exact (Except.ok.inj hpublish).symm

/-- Every configuration draws a new id. -/
theorem exec_makeConfig (plan : MemberPlan) (scopeName : String) (source : ConfigSource)
    (deployment : Deployment) :
    ∃ network trace, SetupNoted deployment.trace trace ∧
      ((∃ error, (plan.makeConfig scopeName source).exec deployment =
        (.error error, { deployment with network, trace })) ∨
      ∃ config, (plan.makeConfig scopeName source).exec deployment =
          (.ok config, { deployment with idsDrawn := deployment.idsDrawn + 1, network, trace }) ∧
        plan.Configured scopeName source deployment.machine
          (deployment.idSource deployment.idsDrawn) config) := by
  obtain ⟨answer, network, trace, hexec, hnoted, hread⟩ := Action.exec_readInstanceConfig
    (source.forRecord scopeName).2.1 ((source.forRecord scopeName).1.scope scopeName) deployment
  refine ⟨network, trace, hnoted, ?_⟩
  unfold makeConfig
  simp only [Action.exec_bind, hexec]
  cases answer with
  | error error => exact .inl ⟨.client error, rfl⟩
  | ok config =>
      obtain ⟨read, hscope, hconfig⟩ := hread config rfl
      refine .inr ⟨_, rfl, ?_⟩
      have hsame : config.appName = read.appName ∧ config.metadata = read.metadata := by
        rcases hconfig with rfl | ⟨metadata, rfl⟩
        · exact ⟨rfl, rfl⟩
        · exact ⟨rfl, rfl⟩
      cases hname : (source.forRecord scopeName).2.2 <;> cases hnode : plan.node <;>
        exact ⟨rfl, by simp [hnode, InstanceConfig.forMember, InstanceConfig.withAppName],
          read, hscope, by simp [hname, hsame, InstanceConfig.forMember,
            InstanceConfig.withAppName]⟩

/-- A member without a manager gets a new one, unless its configuration cannot be read. -/
theorem exec_makeManager (scopeName : String) (policy : StatusPolicy) (source : ConfigSource)
    {deployment : Deployment} (hgiven : plan.givenManager deployment = none) :
    (∃ error network trace, SetupNoted deployment.trace trace ∧
      (plan.makeManager scopeName policy source).exec deployment =
        (.error error, { deployment with network, trace })) ∨
    ∃ manager ready, (plan.makeManager scopeName policy source).exec deployment =
        (.ok manager, ready) ∧
      plan.Prepared scopeName policy source deployment manager ready := by
  obtain ⟨network, trace, hnoted, hconfig⟩ := exec_makeConfig plan scopeName source deployment
  unfold makeManager
  rcases hconfig with ⟨error, hexec⟩ | ⟨config, hexec, hconfig⟩
  · left
    refine ⟨error, network, trace, hnoted, ?_⟩
    simp only [Action.exec_bind, hexec, Action.exec_pure]
  · right
    simp only [Action.exec_bind, hexec, Action.exec_modifyGet, Action.exec_pure]
    -- Nobody listens to the record that was just made.
    have hlisteners : ((({ deployment with
        idsDrawn := deployment.idsDrawn + 1, network, trace } : Deployment).addManager
        (.ofConfig config deployment.clock)).2.managers.get deployment.managers.size).listeners =
        ∅ := by
      rw [Deployment.addManager, Slots.get_add, if_pos rfl]
      rfl
    obtain ⟨later, happly⟩ := StatusPolicy.exec_apply_of_publishers_eq_nil
      (by rw [InstanceManager.publishers, hlisteners]; rfl) policy .starting
    have hlater := StatusPolicy.setupNoted_apply hlisteners policy .starting
    rw [happly] at hlater
    have hready := congrArg Prod.snd happly
    simp only [Deployment.addManager, Deployment.setManager, Slots.get_add, if_pos,
      Slots.set_add] at hready
    refine ⟨_, _, ?_, .made config network later hgiven hconfig (hnoted.trans hlater)⟩
    exact Prod.ext rfl hready

/-- A client is made if its settings can be read and there is a server. -/
theorem exec_makeClient (factory : TransportFactory) (scopeName : String) (policy : StatusPolicy)
    (source : ConfigSource) (manager : Nat) (deployment : Deployment) :
    (∃ error, (makeClient factory scopeName policy source manager).exec deployment =
      (.error error, deployment)) ∨
    ∃ settings client after,
      source.clientSettings scopeName policy.registers = .ok settings ∧
        (Action.connectWith factory manager settings).exec deployment = (.ok client, after) ∧
        (makeClient factory scopeName policy source manager).exec deployment =
          (.ok client, after) := by
  unfold makeClient
  cases hsettings : source.clientSettings scopeName policy.registers with
  | error error => exact .inl ⟨.client error, rfl⟩
  | ok settings =>
      simp only [Action.exec_bind]
      cases hconnect : ((Action.connectWith factory manager settings).exec deployment).1 with
      | error error =>
          refine .inl ⟨.client error, ?_⟩
          rw [Action.exec_pure, Action.exec_connectWith_error hconnect]
      | ok client =>
          exact .inr ⟨settings, client, _, rfl, Prod.ext hconnect rfl, rfl⟩

/-- Whatever the manager is, the client is made for it in the deployment that its making left. -/
theorem Prepared.parts {before ready : Deployment} {manager : Nat}
    (hprepared : plan.Prepared scopeName policy source before manager ready) :
    plan.Parts factory scopeName policy source before
      (((fun made : Except DiscoveryError Nat => made.map fun client => (manager, client)) <$>
        makeClient factory scopeName policy source manager).exec ready).1
      (((fun made : Except DiscoveryError Nat => made.map fun client => (manager, client)) <$>
        makeClient factory scopeName policy source manager).exec ready).2 := by
  rw [Action.exec_map]
  rcases exec_makeClient factory scopeName policy source manager ready with
    ⟨error, hmake⟩ | ⟨settings, client, after, hsettings, hconnect, hmake⟩
  · rw [hmake]
    exact .unconnected error manager ready hprepared
  · rw [hmake]
    exact .connected settings manager client ready after hprepared hsettings hconnect

theorem exec_makeParts (factory : TransportFactory) (scopeName : String) (policy : StatusPolicy)
    (source : ConfigSource) (hclient : plan.client = none) (deployment : Deployment) :
    plan.Parts factory scopeName policy source deployment
      ((plan.makeParts factory scopeName policy source (plan.givenManager deployment)).exec
        deployment).1
      ((plan.makeParts factory scopeName policy source (plan.givenManager deployment)).exec
        deployment).2 := by
  unfold makeParts
  cases hgiven : plan.givenManager deployment with
  | some manager =>
      simp only [hclient]
      exact (Prepared.given manager hgiven).parts
  | none =>
      rcases exec_makeManager scopeName policy source hgiven with
        ⟨error, network, trace, hnoted, hmake⟩ | ⟨manager, ready, hmake, hprepared⟩
      · simp only [Action.exec_bind, hmake, Action.exec_pure]
        exact .unread error network trace hnoted
      · simp only [Action.exec_bind, hmake, hclient]
        exact hprepared.parts

theorem Parts.outcome {options : MemberOptions} {before after : Deployment}
    {answer : Except DiscoveryError (Nat × Nat)}
    (hparts : plan.Parts factory options.scopeName policy source before answer after)
    (hoptions : MemberOptions.read (plan.lookup before) = .ok options)
    (hpolicy : plan.choosePolicy options = .ok policy) (hclient : plan.client = none)
    (hsource : plan.loadSource (plan.lookup before) options before = .ok source) :
    plan.Outcome factory before
      (answer.map fun parts => plan.member options policy parts.2 parts.1) after := by
  cases hparts with
  | unread error network trace hnoted => exact .unread error network trace hclient hnoted
  | unconnected error manager ready hprepared =>
      exact .unconnected error options.scopeName policy source manager after hclient hprepared
  | connected settings manager client ready after hprepared hsettings hconnect =>
      exact .connected options policy source settings client manager ready after hoptions hpolicy
        hclient hsource hprepared hsettings hconnect

theorem exec_assemble (factory : TransportFactory) (hclient : plan.client = none)
    (deployment : Deployment) :
    plan.Outcome factory deployment ((plan.assemble factory).exec deployment).1
      ((plan.assemble factory).exec deployment).2 := by
  unfold assemble
  rw [Action.exec_bind, Action.exec_get]
  dsimp only
  cases hoptions : MemberOptions.read
      ⟨plan.options, plan.environment.getD deployment.environment⟩ with
  | error error => exact .unread error deployment.network deployment.trace hclient (.refl _)
  | ok options =>
      dsimp only
      cases hpolicy : plan.choosePolicy options with
      | error error => exact .unread error deployment.network deployment.trace hclient (.refl _)
      | ok policy =>
          have hparts := fun source =>
            exec_makeParts factory options.scopeName policy source hclient deployment
          dsimp only
          rw [hclient]
          -- The match on what is given is only decided once the manager is known.
          cases hmanager : plan.givenManager deployment <;> rw [hmanager] at hparts <;> dsimp only
          all_goals
            cases hsource : plan.loadSource
                ⟨plan.options, plan.environment.getD deployment.environment⟩ options
                deployment with
            | error error =>
                exact .unread error deployment.network deployment.trace hclient (.refl _)
            | ok source =>
                have houtcome := (hparts source).outcome hoptions hpolicy hclient hsource
                dsimp only
                rw [Action.exec_bind]
                generalize Action.exec (plan.makeParts factory options.scopeName policy source _)
                  deployment = made at houtcome ⊢
                obtain ⟨answer, after⟩ := made
                cases answer with
                | error error => exact houtcome
                | ok parts => exact houtcome

/-- With a given client nothing is made, whether or not the options are good. -/
theorem exec_assemble_of_client {client : Nat} (factory : TransportFactory)
    (hclient : plan.client = some client) (deployment : Deployment) :
    (∃ error, (plan.assemble factory).exec deployment = (.error error, deployment)) ∨
    ∃ options policy manager,
      MemberOptions.read (plan.lookup deployment) = .ok options ∧
        plan.choosePolicy options = .ok policy ∧ plan.givenManager deployment = some manager ∧
        (plan.assemble factory).exec deployment =
          (.ok (plan.member options policy client manager), deployment) := by
  obtain ⟨manager, hmanager⟩ : ∃ manager, plan.givenManager deployment = some manager := by
    cases hplanned : plan.manager <;> simp [givenManager, hclient, hplanned]
  unfold assemble
  rw [Action.exec_bind, Action.exec_get]
  dsimp only
  cases hoptions : MemberOptions.read
      ⟨plan.options, plan.environment.getD deployment.environment⟩ with
  | error error => exact .inl ⟨error, rfl⟩
  | ok options =>
      dsimp only
      cases hpolicy : plan.choosePolicy options with
      | error error => exact .inl ⟨error, rfl⟩
      | ok policy =>
          dsimp only
          rw [hmanager, hclient]
          exact .inr ⟨options, policy, manager, hoptions, hpolicy, rfl, rfl⟩

/-- Building is putting together, and letting go of what is given if that fails. -/
theorem exec_buildWith_eq (plan : MemberPlan) (factory : TransportFactory)
    (deployment : Deployment) :
    (plan.buildWith factory).exec deployment =
      (((plan.assemble factory).exec deployment).1,
        match ((plan.assemble factory).exec deployment).1 with
        | .ok _ => ((plan.assemble factory).exec deployment).2
        | .error _ => (plan.discard.exec ((plan.assemble factory).exec deployment).2).2) := by
  unfold buildWith
  rw [Action.exec_bind]
  generalize (plan.assemble factory).exec deployment = assembled
  obtain ⟨answer, after⟩ := assembled
  cases answer <;> rfl

theorem exec_discard_of_soleClient_eq_none (hsole : plan.soleClient = none)
    (deployment : Deployment) : plan.discard.exec deployment = ((), deployment) := by
  rw [discard, hsole]
  rfl

theorem soleClient_of_client_eq_none (hclient : plan.client = none) : plan.soleClient = none := by
  rw [soleClient, hclient, ite_self]

/-- Building a member has one of the outcomes. -/
theorem exec_buildWith (plan : MemberPlan) (factory : TransportFactory) (deployment : Deployment) :
    plan.Outcome factory deployment ((plan.buildWith factory).exec deployment).1
      ((plan.buildWith factory).exec deployment).2 := by
  rw [exec_buildWith_eq]
  cases hclient : plan.client with
  | none =>
      have houtcome := exec_assemble factory hclient deployment
      generalize (plan.assemble factory).exec deployment = assembled at houtcome ⊢
      obtain ⟨answer, after⟩ := assembled
      cases answer with
      | ok member => exact houtcome
      | error error =>
          dsimp only
          rw [exec_discard_of_soleClient_eq_none (soleClient_of_client_eq_none hclient)]
          exact houtcome
  | some client =>
      rcases exec_assemble_of_client factory hclient deployment with
        ⟨error, hexec⟩ | ⟨options, policy, manager, hoptions, hpolicy, hmanager, hexec⟩
      · rw [hexec]
        exact .refused error client hclient
      · rw [hexec]
        exact .given options policy client manager hoptions hpolicy hclient hmanager

theorem exec_build (plan : MemberPlan) (deployment : Deployment) :
    plan.Outcome (plan.transport.getD .http).connect deployment (plan.build.exec deployment).1
      (plan.build.exec deployment).2 :=
  exec_buildWith plan (plan.transport.getD .http).connect deployment

/-- Whether a member is built for which a test succeeds in the deployment after it. -/
def builds (plan : MemberPlan) (before : Deployment) (test : Member → Deployment → Bool) : Bool :=
  match plan.build.exec before with
  | (.ok member, built) => test member built
  | (.error _, _) => false

theorem exists_of_builds {before : Deployment} {test : Member → Deployment → Bool}
    (hbuilds : plan.builds before test = true) :
    ∃ member built, plan.build.exec before = (.ok member, built) ∧ test member built = true := by
  unfold builds at hbuilds
  split at hbuilds
  next member built hbuild => exact ⟨member, built, hbuild, hbuilds⟩
  next => cases hbuilds

/-- A member that publishes its address. -/
def sample : MemberPlan :=
  { blank with
    node := some ⟨⟨"10.0.0.1", 5701⟩, ⟨"10.0.0.1", 5701⟩, ∅⟩
    options := Table.ofList [(OptionDefinition.useMetadata.key, .flag true)]
    transport := some (.memory 0)
    environment := some fun _ => none
    resource := some (Table.ofList
      [("hazelcast.name", "app"), ("hazelcast.serviceUrl.default", "memory://registry")]) }

/-- A process with an empty registry. -/
def sampleStart : Deployment :=
  (Deployment.start 0 ⟨"host", "10.0.0.9"⟩ toString).addRegistry.2

end MemberPlan

end MemberDiscovery
