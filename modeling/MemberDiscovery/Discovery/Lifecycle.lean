import MemberDiscovery.Discovery.Member

/-! # The life of a member

Starting, looking for others, and leaving. A started member waits until the registry shows its
application; it gives up only for a fatal error. Looking for others ends after a few rounds without
an answer, which then counts as finding nobody.
-/

namespace MemberDiscovery

namespace Deployment

/-- An upper bound on the lookups after which nothing new can happen: all that is fixed in advance
for later is used up by then. -/
def patience (deployment : Deployment) : Nat :=
  let scripted := deployment.clients.toList.map fun client =>
    match client with
    | .registry _ => 0
    | .scripted client => client.script.length
  let failures := deployment.registries.toList.map fun registry => registry.failures.length
  let actions := deployment.interventions.map fun actions => actions.length + 1
  (scripted ++ failures ++ actions).foldl (· + ·) deployment.network.script.length + 1

end Deployment

namespace Member

def discoveryRounds : Nat := 5

def discoveryPause : Nat := 1000

def verificationPause : Nat := 5000

def appName (member : Member) : Action String :=
  return (← Action.getManager member.manager).config.appName

/-- Notes a lookup that failed and may be repeated. -/
def noteFailure (attempt : Nat) (app : String) (error : ClientError) : Action Unit :=
  Action.log .warning ("Looking up application " ++ app ++ " failed: " ++ error.logText)
    [("attempt", toString attempt)]

/-- Goes on with the rounds that are left, after a pause if there are any. -/
def pauseDiscovery (left : Nat) (rest : Action LookupAnswer) : Action LookupAnswer := do
  if 0 < left then modify (·.sleep discoveryPause)
  rest

/-- Looks up an application in the rounds that are left. -/
def findApplication (client : Nat) (app : String) (attempt : Nat) : Nat → Action LookupAnswer
  | 0 => return .ok none
  | left + 1 => do
    match ← Action.lookup client app with
    | .ok (some found) => return .ok (some found)
    | .ok none => pauseDiscovery left (findApplication client app (attempt + 1) left)
    | .error error =>
      if error.isFatal then return .error error
      else
        noteFailure attempt app error
        pauseDiscovery left (findApplication client app (attempt + 1) left)

/-- The candidates of an application, with warnings about the records that are skipped. -/
def collect : List (Instance × Except SkipReason Node) → Action (List Node)
  | [] => return []
  | (record, found) :: rest => do
    match found with
    | .ok node => return node :: (← collect rest)
    | .error reason =>
      match reason.warning? record with
      | some warning => Action.warn warning
      | none => pure ()
      collect rest

def discover (member : Member) : Action (Except DiscoveryError (List Node)) := do
  let app ← member.appName
  match ← findApplication member.client app 1 discoveryRounds with
  | .error error => return .error (.client error)
  -- Nobody answered in time, which is taken for nobody being there.
  | .ok none => return .ok []
  | .ok (some found) => return .ok (← collect (member.rule.survey found))

def pauseVerification (rest : Action (Option (Except DiscoveryError Unit))) :
    Action (Option (Except DiscoveryError Unit)) := do
  modify (·.sleep verificationPause)
  rest

/-- Waits for at most so many lookups until the registry shows an application; `none` if it is still
waiting then. -/
def awaitApplication (client : Nat) (app : String) :
    Nat → Action (Option (Except DiscoveryError Unit))
  | 0 => return none
  | rounds + 1 => do
    Action.inform "Waiting for registration with Eureka..."
    match ← Action.lookup client app with
    -- Any record of the application will do, the member's own or another one.
    | .ok (some _) =>
      Action.inform ("Registration of " ++ app ++ " with Eureka verified")
      return some (.ok ())
    | .ok none => pauseVerification (awaitApplication client app rounds)
    | .error error =>
      if error.isFatal then return some (.error (.client error))
      else pauseVerification (awaitApplication client app rounds)

/-- Waits until the registry shows the member's application; `none` if that never happens. -/
def verify (member : Member) : Action (Option (Except DiscoveryError Unit)) := do
  let app ← member.appName
  awaitApplication member.client app (← get).patience

/-- Starts the member: it is up, and it waits until that shows unless told otherwise. -/
def start (member : Member) : Action (Option (Except DiscoveryError Unit)) := do
  member.policy.apply member.manager .up
  if member.skipsVerification then
    Action.inform "Skipping verification of the Eureka registration"
    return some (.ok ())
  else member.verify

/-- Leaves the cluster: the member is down, and its client ends. -/
def destroy (member : Member) : Action Unit := do
  member.policy.apply member.manager .down
  Action.shutDown member.client

end Member

def SharedSettings.plan (shared : SharedSettings) (node : Option Node) (options : OptionTable) :
    MemberPlan :=
  { MemberPlan.blank with
    client := shared.client
    transport := shared.transport
    groupName := shared.groupName
    node, options }

namespace Plugin

def name : String := "eureka-one"

def newMember (node : Option Node) (options : OptionTable) :
    Action (Except DiscoveryError Member) := do
  ((← get).shared.plan node options).build

end Plugin

end MemberDiscovery
