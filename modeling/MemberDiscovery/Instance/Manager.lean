import MemberDiscovery.Instance.Config

/-! # The record that a process keeps of itself

An `InstanceManager` owns the record that a process publishes and knows who listens to its status.
Every change but that of the dirty mark itself marks the record as dirty; setting the present status
is no change.
-/

namespace MemberDiscovery

/-- Who is told about changes of a status. -/
inductive Listener where
  /-- Somebody who notes them under a tag. -/
  | observer (tag : String)
  /-- The client with a number, which pushes them to its registry. -/
  | client (number : Nat)
  deriving DecidableEq, Repr, Inhabited

/-- A change of a status. -/
structure StatusChange where
  previous : InstanceStatus
  current : InstanceStatus
  deriving DecidableEq, Repr, Inhabited

/-- A record with the configuration that it belongs to and its listeners. -/
structure InstanceManager where
  config : InstanceConfig
  record : Instance
  listeners : Table Listener
  deriving DecidableEq, Repr, Inhabited

namespace InstanceManager

def ofRecord (config : InstanceConfig) (record : Instance) : InstanceManager :=
  { config, record, listeners := ∅ }

def ofConfig (config : InstanceConfig) (now : Timestamp) : InstanceManager :=
  ofRecord config (.ofConfig config now)

def update (now : Timestamp) (change : Instance → Instance) (manager : InstanceManager) :
    InstanceManager :=
  { manager with record := (change manager.record).markDirty now }

def addMetadata (now : Timestamp) (entries : List (String × String)) (manager : InstanceManager) :
    InstanceManager :=
  manager.update now fun record => { record with metadata := record.metadata.insertAll entries }

/-- Notes that the changes up to a moment were sent. -/
def clearDirty (sent : Timestamp) (manager : InstanceManager) : InstanceManager :=
  { manager with record := manager.record.clearDirty sent }

def setStatus (now : Timestamp) (status : InstanceStatus) (manager : InstanceManager) :
    Option StatusChange × InstanceManager :=
  let (previous, record) := manager.record.setStatus now status
  (previous.map fun previous => ⟨previous, status⟩, { manager with record })

/-- Puts a listener under an id, in the place of the one before. -/
def listen (id : String) (listener : Listener) (manager : InstanceManager) : InstanceManager :=
  { manager with listeners := manager.listeners.insert id listener }

def unlisten (id : String) (manager : InstanceManager) : InstanceManager :=
  { manager with listeners := manager.listeners.erase id }

end InstanceManager

end MemberDiscovery
