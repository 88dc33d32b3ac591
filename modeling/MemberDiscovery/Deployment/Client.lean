import MemberDiscovery.Deployment.Status

/-! # Clients

Making, using and ending clients. A client that registers sends its record at once and goes on if
that fails. It then has a thread for heartbeats, each of which renews the lease of the record and
registers it again when the registry has lost it. A client ends once: it waits until its thread has
stopped, takes the record back, and from then on makes no request.
-/

namespace MemberDiscovery

namespace Action

/-- The seconds between heartbeats: those between renewals, but at least one. -/
def heartbeatPause (lease : Lease) : Nat :=
  max 1 lease.renewalInterval.toInt.toNat

def startHeartbeat (number : Nat) (client : RegistryClient) : Action Unit := do
  let pause := heartbeatPause (← getManager client.manager).record.lease
  modify (·.setClient number (.registry { client with heartbeat := some pause }))

/-- Sends the record of a new client. The heartbeats make up for a failure. -/
def registerFirst (client : RegistryClient) : Action Unit := do
  match ← register client with
  | .ok () => return
  | .error error => warn ("Initial registration failed: " ++ error.logText)

def beginRegistration (number : Nat) (client : RegistryClient) : Action Unit := do
  modifyManager client.manager fun _ manager => manager.listen clientListenerId (.client number)
  registerFirst client
  startHeartbeat number client

/-- Makes a client for the record of a manager. There has to be a server, and the factory has to
make a transport to every one. -/
def connectWith (factory : TransportFactory) (manager : Nat) (settings : ClientSettings) :
    Action (Except ClientError Nat) := do
  let urls := settings.orderedUrls
  if urls.isEmpty then return .error .noServiceUrls
  match urls.mapM (factory settings) with
  | .error error => return .error error
  | .ok transports =>
    let client : RegistryClient :=
      { manager, settings, transports, isShutDown := false, heartbeat := none }
    let number ← modifyGet (·.addClient (.registry client))
    -- Only a client that registers listens to the record.
    if settings.registers then beginRegistration number client
    return .ok number

/-- Makes a client whose servers are all of one kind. -/
def connect (manager : Nat) (settings : ClientSettings) (kind : TransportKind) :
    Action (Except ClientError Nat) :=
  connectWith kind.connect manager settings

/-- Renews the lease of a client's record, and registers it again if the registry does not know
it. -/
def renewLease (client : RegistryClient) : Action (Except ClientError Unit) := do
  let record := (← getManager client.manager).record
  match ← failover (submit (.heartbeat record)) client.transports with
  | .error error => return .error error
  | .ok .renewed => return .ok ()
  | .ok .notFound =>
    inform ("Registry lost " ++ record.id ++ ", registering again")
    register client

/-- Renews the lease at the wish of a caller. -/
def renew (client : RegistryClient) : Action (Except ClientError Unit) := do
  if client.isShutDown then return .error .shutDown
  else renewLease client

/-- Renews the lease from the thread of a client, which tells nobody of a failure. -/
def sendHeartbeat (client : RegistryClient) : Action Unit := do
  match ← renewLease client with
  | .ok () => return
  | .error error => warn ("Heartbeat failed: " ++ error.logText)

/-- The thread of a client, if it has one, has waited for so many seconds. A heartbeat that is due
then does not ask whether the client has ended: there is no thread when it has. -/
def beat (number waited : Nat) : Action Unit := do
  match (← get).clients.get number with
  | .registry client => if client.heartbeat.any (· ≤ waited) then sendHeartbeat client
  | .scripted _ => return

/-- Looks up an application with a client that registers. Without registry fetching there is nothing
to be found. -/
def lookupRegistry (client : RegistryClient) (app : String) : Action LookupAnswer := do
  if client.isShutDown then return .error .shutDown
  else if ¬ client.settings.fetches then return .ok none
  else failover (submit (.lookup app)) client.transports

/-- The next answer of a script, and the client after it. -/
def nextAnswer (client : ScriptedClient) : LookupAnswer × ScriptedClient :=
  match client.script with
  | [] => (client.fallback, client)
  | answer :: script => (answer, { client with script })

def lookup (number : Nat) (app : String) : Action LookupAnswer := do
  match (← get).clients.get number with
  | .registry client => lookupRegistry client app
  | .scripted client =>
    let (answer, client) := nextAnswer client
    modify fun deployment => (deployment.note (.lookedUp app)).setClient number (.scripted client)
    return answer

def unregister (client : RegistryClient) : Action Unit := do
  let record := (← getManager client.manager).record
  inform ("Unregistering " ++ record.display)
  match ← failover (submit (.cancel record.app record.id)) client.transports with
  | .ok () => return
  | .error error => warn ("Cannot unregister from the registry: " ++ error.logText)

/-- Closes a client to its callers and to changes of its record. Its thread goes on. -/
def close (number : Nat) (client : RegistryClient) : Action Unit := do
  modify (·.setClient number (.registry { client with isShutDown := true }))
  inform "Shutting down registry client"
  modifyManager client.manager fun _ manager => manager.unlisten clientListenerId

/-- Stops the thread of a client that is closed, and then takes its record back. -/
def stopAndUnregister (number : Nat) (client : RegistryClient) : Action Unit := do
  modify (·.setClient number (.registry { client with isShutDown := true, heartbeat := none }))
  if client.settings.registers then unregister client

/-- Ends a client that is not ended yet. -/
def endRegistry (number : Nat) (client : RegistryClient) : Action Unit := do
  if client.isShutDown then return
  -- It is closed before the request is made, so it ends once even if that fails.
  close number client
  stopAndUnregister number client

def shutDown (number : Nat) : Action Unit := do
  match (← get).clients.get number with
  | .registry client => endRegistry number client
  | .scripted _ => modify (·.note .stopped)

/-- Ends a client that nobody holds any longer. -/
def release (number : Nat) : Action Unit := do
  match (← get).clients.get number with
  | .registry client => endRegistry number client
  | .scripted _ => return

/-- Ends the clients that nobody holds any longer. -/
def releaseUnless (isHeld : Nat → Bool) : Action Unit := do
  for number in (← get).clients.numbers do
    unless isHeld number do release number

end Action

end MemberDiscovery
