import MemberDiscovery.Config.Resource
import MemberDiscovery.Discovery.Candidate
import MemberDiscovery.Discovery.Options
import MemberDiscovery.Discovery.StatusPolicy

/-! # Members

A `Member` finds the other members of its cluster through a registry. It is built from a
`MemberPlan`, which may leave almost everything open: what it lacks is read from the plugin options,
the environment and the configuration resource, and a record and a client are made if there are
none.
-/

namespace MemberDiscovery

/-- A process that takes part in a cluster. -/
structure Member where
  client : Nat
  manager : Nat
  policy : StatusPolicy
  rule : CandidateRule
  scopeName : String
  /-- Whether starting does not wait until the registration shows. -/
  skipsVerification : Bool

/-- What is given for the making of a member. -/
structure MemberPlan where
  client : Option Nat
  /-- Whether nobody else holds the given client. -/
  ownsClient : Bool := false
  manager : Option Nat
  /-- The local member; there is none in a process that only looks for members. -/
  node : Option Node
  options : OptionTable
  groupName : Option String
  policy : Option StatusPolicy
  /-- Where a new client finds its servers, over HTTP unless given. -/
  transport : Option TransportKind
  resolver : HostResolver
  /-- What overrides options, the variables of the process unless given. -/
  environment : Option Environment
  /-- The configuration resource, to be looked for unless given. -/
  resource : Option PropertySet

/-- The values of the options that a member uses itself. -/
structure MemberOptions where
  scopeName : String
  selfRegistration : Bool
  usesMetadata : Bool
  usesResource : Bool
  skipsVerification : Bool
  deriving DecidableEq, Repr, Inhabited

namespace MemberOptions

def defaultScopeName : String := "hazelcast"

/-- Reads the options. The first one with a value of the wrong kind is reported. -/
def read (lookup : OptionLookup) : Except DiscoveryError MemberOptions := do
  let scopeName ← lookup.text .scopeName defaultScopeName
  let selfRegistration ← lookup.flag .selfRegistration true
  let usesMetadata ← lookup.flag .useMetadata false
  let usesResource ← lookup.flag .useResource true
  let skipsVerification ← lookup.flag .skipVerification false
  return { scopeName, selfRegistration, usesMetadata, usesResource, skipsVerification }

end MemberOptions

/-- Where the configuration of record and client comes from. -/
inductive ConfigSource where
  | resource (properties : PropertySet)
  /-- The plugin options as properties: those for the record, and those for the client without the
  options of the plugin itself. -/
  | options (forInstance forClient : PropertySet) (dataCenter appName : String)

namespace ConfigSource

/-- The options as properties of a scope. -/
def instanceProperties (scopeName : String) (options : OptionTable) : PropertySet :=
  Table.ofList (options.toList.map fun entry =>
    (scopeName ++ "." ++ entry.1, entry.2.display))

/-- Leaves out the options of the plugin itself. -/
def clientProperties (scopeName : String) (properties : PropertySet) : PropertySet :=
  OptionDefinition.ofPlugin.foldl
    (fun (properties : PropertySet) definition =>
      properties.erase (scopeName ++ "." ++ definition.key))
    properties

/-- The source of the options. -/
def ofOptions (scopeName : String) (lookup : OptionLookup) :
    Except DiscoveryError ConfigSource := do
  let properties := instanceProperties scopeName lookup.values
  let dataCenter ← lookup.text .dataCenter ""
  let appName ← lookup.text .name InstanceConfig.defaultAppName
  return .options properties (clientProperties scopeName properties) dataCenter appName

/-- The properties of the record, the kind of its data center, and the application name if it is not
among the properties. -/
def forRecord (source : ConfigSource) (scopeName : String) :
    PropertySet × DataCenterFlavor × Option String :=
  match source with
  | .resource properties =>
    (properties, .ofName ((properties.scope scopeName).text "datacenter" ""), none)
  | .options forInstance _ dataCenter appName => (forInstance, .ofName dataCenter, some appName)

/-- The settings of the client. The properties can switch registration off, but only the options can
do so in a resource's stead. -/
def clientSettings (source : ConfigSource) (scopeName : String) (registers : Bool) :
    Except ClientError ClientSettings :=
  match source with
  | .resource properties =>
    (ClientSettings.ofProperties scopeName properties).map (·.withRegistration registers)
  | .options _ forClient _ _ =>
    (ClientSettings.ofProperties scopeName forClient).map fun settings =>
      settings.withRegistration (settings.registers && registers)

end ConfigSource

namespace MemberPlan

/-- A plan that leaves everything open. -/
def blank : MemberPlan where
  client := none
  ownsClient := false
  manager := none
  node := none
  options := ∅
  groupName := none
  policy := none
  transport := none
  resolver := HostResolver.literal
  environment := none
  resource := none

def defaultGroupName : String := "dev"

def group (plan : MemberPlan) : String :=
  plan.groupName.getD defaultGroupName

/-- The policy that the plan itself asks for: none without a local member; the given one; and with a
given client, which may serve others, none. -/
def plannedPolicy (plan : MemberPlan) : StatusPolicy :=
  match plan.node, plan.policy, plan.client with
  | none, _, _ => .disabled
  | some _, some policy, _ => policy
  | some _, none, some _ => .disabled
  | some _, none, none => .forwarding

/-- The policy of the member. In metadata mode the address is published. -/
def choosePolicy (plan : MemberPlan) (options : MemberOptions) :
    Except DiscoveryError StatusPolicy :=
  match plan.node, options.selfRegistration, options.usesMetadata with
  | _, false, false => .ok .disabled
  | some node, selfRegistration, true =>
    StatusPolicy.publish node.privateAddress selfRegistration plan.group
  | _, _, _ => .ok plan.plannedPolicy

/-- The number of the manager to use: the given one, or that of the given client. -/
def givenManager (plan : MemberPlan) (deployment : Deployment) : Option Nat :=
  plan.manager.or (plan.client.map fun number => (deployment.clients.get number).manager)

def loadSource (plan : MemberPlan) (lookup : OptionLookup) (options : MemberOptions)
    (deployment : Deployment) : Except DiscoveryError ConfigSource :=
  if options.usesResource then
    let located : Except ClientError PropertySet := match plan.resource with
      | some resource => .ok resource
      | none => PropertySet.locate deployment.files deployment.environment
    match located with
    | .ok resource => .ok (.resource resource)
    | .error error => .error (.client error)
  else ConfigSource.ofOptions options.scopeName lookup

/-- Makes the configuration of the member's record. Every member draws a new instance id. -/
def makeConfig (plan : MemberPlan) (scopeName : String) (source : ConfigSource) :
    Action (Except DiscoveryError InstanceConfig) := do
  let (properties, flavor, appName) := source.forRecord scopeName
  match ← Action.readInstanceConfig flavor (properties.scope scopeName) with
  | .error error => return .error (.client error)
  | .ok config =>
    let id ← modifyGet (·.drawId)
    let config := config.forMember id plan.node
    return .ok (appName.elim config config.withAppName)

def makeManager (plan : MemberPlan) (scopeName : String) (policy : StatusPolicy)
    (source : ConfigSource) : Action (Except DiscoveryError Nat) := do
  match ← plan.makeConfig scopeName source with
  | .error error => return .error error
  | .ok config =>
    let number ← modifyGet fun deployment =>
      deployment.addManager (.ofConfig config deployment.clock)
    -- No client listens yet, so this is not sent.
    policy.apply number .starting
    return .ok number

def makeClient (factory : TransportFactory) (scopeName : String) (policy : StatusPolicy)
    (source : ConfigSource) (manager : Nat) : Action (Except DiscoveryError Nat) := do
  match source.clientSettings scopeName policy.registers with
  | .error error => return .error (.client error)
  | .ok settings =>
    match ← Action.connectWith factory manager settings with
    | .ok client => return .ok client
    | .error error => return .error (.client error)

/-- Makes the parts of a member that are not given. -/
def makeParts (plan : MemberPlan) (factory : TransportFactory) (scopeName : String)
    (policy : StatusPolicy) (source : ConfigSource) (manager : Option Nat) :
    Action (Except DiscoveryError (Nat × Nat)) := do
  let made ← match manager with
    | some manager => pure (.ok manager)
    | none => plan.makeManager scopeName policy source
  match made with
  | .error error => return .error error
  | .ok manager =>
    let made ← match plan.client with
      | some client => pure (.ok client)
      | none => makeClient factory scopeName policy source manager
    return made.map fun client => (manager, client)

/-- Puts the member together; transports of a new client are made by the factory. The configuration
is read only if there is something to be made of it. -/
def assemble (plan : MemberPlan) (factory : TransportFactory) :
    Action (Except DiscoveryError Member) := do
  let deployment ← get
  let lookup : OptionLookup :=
    ⟨plan.options, plan.environment.getD deployment.environment⟩
  match MemberOptions.read lookup with
  | .error error => return .error error
  | .ok options =>
    match plan.choosePolicy options with
    | .error error => return .error error
    | .ok policy =>
      let member (client manager : Nat) : Member :=
        { client, manager, policy
          rule := ⟨options.usesMetadata, plan.group, plan.resolver⟩
          scopeName := options.scopeName
          skipsVerification := options.skipsVerification }
      match plan.givenManager deployment, plan.client with
      | some manager, some client => return .ok (member client manager)
      | manager, _ =>
        -- Something has to be made, and only now the configuration has to be there.
        match plan.loadSource lookup options deployment with
        | .error error => return .error error
        | .ok source =>
          match ← plan.makeParts factory options.scopeName policy source manager with
          | .error error => return .error error
          | .ok (manager, client) => return .ok (member client manager)

/-- The given client, if the plan is all that holds it. -/
def soleClient (plan : MemberPlan) : Option Nat :=
  if plan.ownsClient then plan.client else none

/-- Lets go of what is given. -/
def discard (plan : MemberPlan) : Action Unit :=
  match plan.soleClient with
  | some client => Action.release client
  | none => return

/-- Builds the member. A plan of which nothing comes is used up all the same. -/
def buildWith (plan : MemberPlan) (factory : TransportFactory) :
    Action (Except DiscoveryError Member) := do
  match ← plan.assemble factory with
  | .ok member => return .ok member
  | .error error =>
    plan.discard
    return .error error

/-- Builds the member, with transports of the plan's kind. -/
def build (plan : MemberPlan) : Action (Except DiscoveryError Member) :=
  plan.buildWith (plan.transport.getD .http).connect

end MemberPlan

end MemberDiscovery
