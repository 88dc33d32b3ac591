import MemberDiscovery.Client.Failover
import MemberDiscovery.Deployment.Exchange

/-! # Publishing a record

A client that registers its instance sends the whole record and then clears the dirty mark, unless
the record was changed in between. It listens to the status of the record and sends it again with
every change; a change that cannot be sent stays marked.
-/

namespace MemberDiscovery

namespace Action

/-- The id under which a client listens to its record. A manager has one listener of that id, so of
several clients that share a record only the last one listens. -/
def clientListenerId : String := "discovery-client"

def getManager (number : Nat) : Action InstanceManager :=
  return (← get).managers.get number

def modifyManager (number : Nat) (change : Timestamp → InstanceManager → InstanceManager) :
    Action Unit :=
  modify fun deployment =>
    deployment.setManager number (change deployment.clock (deployment.managers.get number))

def register (client : RegistryClient) : Action (Except ClientError Unit) := do
  let record := (← getManager client.manager).record
  inform ("Registering " ++ record.display ++ " with the registry")
  match ← failover (submit (.register record)) client.transports with
  | .ok () =>
    -- What changed while the record was on its way stays marked.
    modifyManager client.manager fun _ manager => manager.clearDirty record.lastDirty
    return .ok ()
  | .error error => return .error error

/-- Sends the record of a client after a change of its status. -/
def push (client : RegistryClient) (change : StatusChange) : Action Unit := do
  if client.isShutDown then return
  match ← register client with
  | .ok () => return
  | .error error =>
    warn ("Cannot push status " ++ change.current.name ++ " to the registry: " ++ error.logText)

def tell (change : StatusChange) (listener : Listener) : Action Unit := do
  match listener with
  | .observer tag => modify (·.note (.statusChanged tag change))
  | .client number =>
    match (← get).clients.get number with
    | .registry client => push client change
    | .scripted _ => return

/-- Sets the status of a record. If that is a change, the listeners are told. -/
def setStatus (number : Nat) (status : InstanceStatus) : Action Unit := do
  let deployment ← get
  let (change, manager) := (deployment.managers.get number).setStatus deployment.clock status
  -- The record has its new status before anybody is told.
  set (deployment.setManager number manager)
  match change with
  | none => return
  | some change =>
    inform ("Instance status changed from " ++ change.previous.name ++ " to "
      ++ change.current.name)
    manager.listeners.toList.forM fun entry => tell change entry.2

/-- Changes a record other than by its status, of which nobody is told. -/
def updateRecord (number : Nat) (change : Instance → Instance) : Action Unit :=
  modifyManager number fun now manager => manager.update now change

def addMetadata (number : Nat) (entries : List (String × String)) : Action Unit :=
  modifyManager number fun now manager => manager.addMetadata now entries

end Action

end MemberDiscovery
