import MemberDiscovery.Table
import MemberDiscovery.Number.Integer
import MemberDiscovery.Text.Upper

/-! # Instance records

What a process publishes about itself in a registry. A record remembers whether it was changed since
it was last sent and when; the clock reading at a change is an argument of every changing operation.
-/

namespace MemberDiscovery

/-- Milliseconds since the beginning of 1970. -/
abbrev Timestamp := Int64

/-- Whether and how an instance takes part. -/
inductive InstanceStatus where
  /-- Takes requests. -/
  | up
  /-- Is not healthy. -/
  | down
  /-- Is not ready yet. -/
  | starting
  /-- Was taken out of rotation on purpose. -/
  | outOfService
  /-- Is not known, or has a name that is not known. -/
  | unknown
  deriving DecidableEq, Repr, Inhabited

namespace InstanceStatus

def name : InstanceStatus → String
  | .up => "UP"
  | .down => "DOWN"
  | .starting => "STARTING"
  | .outOfService => "OUT_OF_SERVICE"
  | .unknown => "UNKNOWN"

/-- The status with a name; every other name means unknown. -/
def ofName (name : String) : InstanceStatus :=
  if name = "UP" then .up
  else if name = "DOWN" then .down
  else if name = "STARTING" then .starting
  else if name = "OUT_OF_SERVICE" then .outOfService
  else .unknown

@[simp] theorem ofName_name (status : InstanceStatus) : ofName status.name = status := by
  cases status <;> decide

end InstanceStatus

/-- A port and whether it takes requests. -/
structure PortSetting where
  number : Int32
  enabled : Bool
  deriving DecidableEq, Repr, Inhabited

/-- The port of a record that names none. -/
def PortSetting.plainDefault : PortSetting := ⟨7001, false⟩

/-- The secure port of a record that names none. -/
def PortSetting.secureDefault : PortSetting := ⟨7002, false⟩

/-- Kinds of data centers. -/
inductive DataCenterKind where
  | myOwn
  | amazon
  | netflix
  deriving DecidableEq, Repr, Inhabited

namespace DataCenterKind

def name : DataCenterKind → String
  | .myOwn => "MyOwn"
  | .amazon => "Amazon"
  | .netflix => "Netflix"

def ofName? (name : String) : Option DataCenterKind :=
  if name = "MyOwn" then some .myOwn
  else if name = "Amazon" then some .amazon
  else if name = "Netflix" then some .netflix
  else none

@[simp] theorem ofName?_name (kind : DataCenterKind) : ofName? kind.name = some kind := by
  cases kind <;> decide

end DataCenterKind

/-- Where an instance runs. -/
structure DataCenter where
  /-- A class marker that registry servers expect. -/
  className : String
  kind : DataCenterKind
  metadata : Table String
  deriving DecidableEq, Repr, Inhabited

namespace DataCenter

def genericClass : String := "com.netflix.appinfo.InstanceInfo$DefaultDataCenterInfo"

def amazonClass : String := "com.netflix.appinfo.AmazonInfo"

/-- A data center of no particular provider. -/
def generic : DataCenter := ⟨genericClass, .myOwn, ∅⟩

/-- A data center with the metadata of its provider. -/
def amazon (metadata : Table String) : DataCenter := ⟨amazonClass, .amazon, metadata⟩

end DataCenter

/-- The timing of a registration. -/
structure Lease where
  /-- Seconds between renewals. -/
  renewalInterval : Int32
  /-- Seconds without renewal after which a registration is dropped. -/
  duration : Int32
  registeredAt : Timestamp
  renewedAt : Timestamp
  evictedAt : Timestamp
  upSince : Timestamp
  deriving DecidableEq, Repr, Inhabited

namespace Lease

def defaultInterval : Int32 := 30

def defaultDuration : Int32 := 90

def new (renewalInterval duration : Int32) : Lease := ⟨renewalInterval, duration, 0, 0, 0, 0⟩

end Lease

/-- What a registry did to a record. -/
inductive RegistryAction where
  | added
  | modified
  | deleted
  deriving DecidableEq, Repr, Inhabited

namespace RegistryAction

def name : RegistryAction → String
  | .added => "ADDED"
  | .modified => "MODIFIED"
  | .deleted => "DELETED"

def ofName? (name : String) : Option RegistryAction :=
  if name = "ADDED" then some .added
  else if name = "MODIFIED" then some .modified
  else if name = "DELETED" then some .deleted
  else none

@[simp] theorem ofName?_name (action : RegistryAction) : ofName? action.name = some action := by
  cases action <;> decide

end RegistryAction

/-- What a process publishes about itself. -/
structure Instance where
  instanceId : String
  hostName : String
  app : String
  appGroup : Option String
  ipAddress : String
  status : InstanceStatus
  /-- A status that the registry imposes. -/
  overriddenStatus : InstanceStatus
  port : PortSetting
  securePort : PortSetting
  countryId : Int32
  dataCenter : DataCenter
  lease : Lease
  metadata : Table String
  homePageUrl : Option String
  statusPageUrl : Option String
  healthCheckUrl : Option String
  secureHealthCheckUrl : Option String
  vipAddress : Option String
  secureVipAddress : Option String
  asgName : Option String
  isRegistryServer : Bool
  lastUpdated : Timestamp
  lastDirty : Timestamp
  action : Option RegistryAction
  /-- Whether there are changes that were not sent. It is never part of what is sent. -/
  dirty : Bool
  deriving DecidableEq, Repr, Inhabited

namespace Instance

def new (app instanceId : String) (now : Timestamp) : Instance where
  instanceId := instanceId
  hostName := ""
  app := Text.upper app
  appGroup := none
  ipAddress := ""
  status := .up
  overriddenStatus := .unknown
  port := .plainDefault
  securePort := .secureDefault
  countryId := 1
  dataCenter := .generic
  lease := .new Lease.defaultInterval Lease.defaultDuration
  metadata := ∅
  homePageUrl := none
  statusPageUrl := none
  healthCheckUrl := none
  secureHealthCheckUrl := none
  vipAddress := none
  secureVipAddress := none
  asgName := none
  isRegistryServer := false
  lastUpdated := now
  lastDirty := now
  action := none
  dirty := false

/-- The name under which a registry keeps the record: the instance id, or the host name of records
without one. -/
def id (record : Instance) : String :=
  if record.instanceId = "" then record.hostName else record.instanceId

def markDirty (now : Timestamp) (record : Instance) : Instance :=
  { record with dirty := true, lastDirty := now }

/-- Notes that the changes up to a moment were sent. -/
def clearDirty (sent : Timestamp) (record : Instance) : Instance :=
  if record.lastDirty ≤ sent then { record with dirty := false } else record

/-- Changes the status. The previous status is given only if it is another one. -/
def setStatus (now : Timestamp) (status : InstanceStatus) (record : Instance) :
    Option InstanceStatus × Instance :=
  if record.status = status then (none, record)
  else (some record.status, markDirty now { record with status })

/-- A short text for logs: application, id, address and status. -/
def display (record : Instance) : String :=
  record.app ++ "/" ++ record.id ++ " (" ++ record.ipAddress ++ ":"
    ++ Integer.render record.port.number.toInt ++ ", " ++ record.status.name ++ ")"

end Instance

end MemberDiscovery
