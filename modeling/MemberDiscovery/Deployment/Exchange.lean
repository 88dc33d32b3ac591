import MemberDiscovery.Deployment.Basic

/-! # Requests of a deployment

How requests reach registries, in memory or over the network, and how a process in a cloud asks the
provider about itself.
-/

namespace MemberDiscovery

namespace Action

/-- Makes a call to an address and waits for the reply. There is none if nobody accepts the
connection or the server closes it. -/
def exchange (proxy : Option HttpProxy) (url : Url) (call : HttpCall) :
    Action (Option HttpReply) := do
  let (endpoint, call) := call.route proxy url
  let deployment ← get
  if deployment.network.accepts endpoint then
    let (reply, network) := deployment.network.reply
    -- A call is noted even if the server closes the connection.
    set ({ deployment with network }.note (.called call))
    return reply
  else return none

def submitRemote {α : Type} (server : RemoteRegistry) (request : Request α) :
    Action (Except ClientError α) := do
  match server.url? request with
  | none => return .error .noAnswer
  | some url =>
    match ← exchange server.proxy url (RemoteRegistry.call request) with
    | none => return .error .noAnswer
    | some reply => return RemoteRegistry.readReply url request reply

def submitMemory {α : Type} (number : Nat) (request : Request α) :
    Action (Except ClientError α) := do
  let deployment ← get
  let (answer, registry) := (deployment.registries.get number).submit deployment.clock request
  set (deployment.setRegistry number registry)
  return answer

def submit {α : Type} (request : Request α) : Transport → Action (Except ClientError α)
  | .memory registry _ => submitMemory registry request
  | .remote server => submitRemote server request

/-! ## Provider metadata -/

/-- What a cloud provider is asked for, with the keys under which the answers are kept. -/
def providerKeys : List (String × String) :=
  [("instance-id", "instance-id"), ("ami-id", "ami-id"), ("instance-type", "instance-type"),
   ("local-ipv4", "local-ipv4"), ("local-hostname", "local-hostname"),
   ("public-hostname", "public-hostname"), ("public-ipv4", "public-ipv4"),
   ("placement/availability-zone", "availability-zone")]

/-- Where the provider's metadata is unless configured. -/
def providerUrl : String := "http://169.254.169.254/latest/meta-data/"

/-- Asks for the values of keys one after the other. A key that is answered with anything but
success is left out; a call without a reply ends the search without a result. -/
def askProvider (base : String) (sofar : Table String) :
    List (String × String) → Action (Option (Table String))
  | [] => return some sofar
  | (path, key) :: keys => do
    match Url.parse? (base ++ "/" ++ path) with
    | none => return none
    | some url =>
      match ← exchange none url (HttpCall.plain "GET") with
      | none => return none
      | some reply =>
        if reply.isSuccess then askProvider base (sofar.insert key (Text.trim reply.text)) keys
        else askProvider base sofar keys

/-- The metadata of the provider; nothing if it cannot be read. -/
def providerMetadata (url : String) : Action (Table String) := do
  let base := String.ofList (Text.dropTrailing (· = '/') url.toList)
  match ← askProvider base ∅ providerKeys with
  | some metadata => return metadata
  | none =>
    warn ("Cannot read EC2 instance metadata from " ++ url ++ ": " ++ ClientError.noAnswer.logText)
    return ∅

/-- Reads the configuration of an instance in a data center. -/
def readInstanceConfig (flavor : DataCenterFlavor) (scope : Scope) :
    Action (Except ClientError InstanceConfig) := do
  match InstanceConfig.ofScope (← get).machine scope with
  | .error error => return .error error
  | .ok config =>
    match flavor with
    | .generic => return .ok config
    | .cloud =>
      let metadata ← providerMetadata (scope.text "amazon.metadataUrl" providerUrl)
      return .ok (config.withProviderMetadata metadata)

end Action

end MemberDiscovery
