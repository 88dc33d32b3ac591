import MemberDiscovery.Application
import MemberDiscovery.Json.Record

/-! # Records on the wire

The JSON form of instances and applications. Writing is canonical. Reading is generous, since
registries differ: numbers and booleans may be texts, metadata may carry a class marker or be null,
most fields may be absent, and a single instance may stand for a list of one.
-/

namespace MemberDiscovery

open Json (Document)

namespace InstanceStatus

/-- Reads a status; a name that is not known means unknown. -/
def ofDocument? (item : Document) : Option InstanceStatus :=
  item.word?.map ofName

end InstanceStatus

namespace RegistryAction

def ofDocument? (item : Document) : Option RegistryAction :=
  item.word?.bind ofName?

def ofOptional? : Document → Option (Option RegistryAction)
  | .null => some none
  | item => (ofDocument? item).map some

end RegistryAction

def Json.flagText (value : Bool) : Json :=
  .string (if value then "true" else "false")

namespace PortSetting

def toJson (port : PortSetting) : Json :=
  .ofMembers [("$", .int port.number.toInt), ("@enabled", Json.flagText port.enabled)]

def fields : List (List String) := [["$"], ["@enabled"]]

def ofDocument? (item : Document) : Option PortSetting := do
  let record ← Json.Record.ofDocument? fields item
  let number ← record.required "$" Document.int32?
  let enabled ← record.required "@enabled" Document.flag?
  return { number, enabled }

end PortSetting

namespace DataCenter

def toJson (center : DataCenter) : Json :=
  .ofMembers ([("@class", .string center.className), ("name", .string center.kind.name)]
    ++ if center.metadata.isEmpty then [] else [("metadata", .ofTexts center.metadata)])

def fields : List (List String) := [["@class"], ["name"], ["metadata"]]

def ofDocument? (depth : Nat) (item : Document) : Option DataCenter := do
  let record ← Json.Record.ofDocument? fields item
  let className ← record.withDefault "@class" Document.text? genericClass
  let kind ← record.required "name" fun name => name.word?.bind DataCenterKind.ofName?
  let metadata ← record.withDefault "metadata" (Document.textMap? (depth - 1)) ∅
  return { className, kind, metadata }

end DataCenter

namespace Lease

def toJson (lease : Lease) : Json :=
  .ofMembers
    [("renewalIntervalInSecs", .int lease.renewalInterval.toInt),
     ("durationInSecs", .int lease.duration.toInt),
     ("registrationTimestamp", .int lease.registeredAt.toInt),
     ("lastRenewalTimestamp", .int lease.renewedAt.toInt),
     ("evictionTimestamp", .int lease.evictedAt.toInt),
     ("serviceUpTimestamp", .int lease.upSince.toInt)]

def fields : List (List String) :=
  [["renewalIntervalInSecs"], ["durationInSecs"], ["registrationTimestamp"],
   ["lastRenewalTimestamp"], ["evictionTimestamp"], ["serviceUpTimestamp"]]

def ofDocument? (item : Document) : Option Lease := do
  let record ← Json.Record.ofDocument? fields item
  let renewalInterval ← record.withDefault "renewalIntervalInSecs" Document.int32? defaultInterval
  let duration ← record.withDefault "durationInSecs" Document.int32? defaultDuration
  let registeredAt ← record.withDefault "registrationTimestamp" Document.int64? 0
  let renewedAt ← record.withDefault "lastRenewalTimestamp" Document.int64? 0
  let evictedAt ← record.withDefault "evictionTimestamp" Document.int64? 0
  let upSince ← record.withDefault "serviceUpTimestamp" Document.int64? 0
  return { renewalInterval, duration, registeredAt, renewedAt, evictedAt, upSince }

end Lease

/-- A member that is left out if its text is absent. -/
def Json.optionalMember (key : String) (text : Option String) : List (String × Json) :=
  match text with
  | some text => [(key, .string text)]
  | none => []

namespace Instance

/-- The JSON form. Absent texts and an absent action are left out. -/
def toJson (record : Instance) : Json :=
  .ofMembers
    ([("instanceId", .string record.instanceId),
      ("hostName", .string record.hostName),
      ("app", .string record.app),
      ("ipAddr", .string record.ipAddress),
      ("status", .string record.status.name),
      ("overriddenstatus", .string record.overriddenStatus.name),
      ("port", record.port.toJson),
      ("securePort", record.securePort.toJson),
      ("countryId", .int record.countryId.toInt),
      ("dataCenterInfo", record.dataCenter.toJson),
      ("leaseInfo", record.lease.toJson),
      ("metadata", .ofTexts record.metadata),
      ("isCoordinatingDiscoveryServer", Json.flagText record.isRegistryServer),
      ("lastUpdatedTimestamp", .int record.lastUpdated.toInt),
      ("lastDirtyTimestamp", .int record.lastDirty.toInt)]
    ++ Json.optionalMember "appGroupName" record.appGroup
    ++ Json.optionalMember "homePageUrl" record.homePageUrl
    ++ Json.optionalMember "statusPageUrl" record.statusPageUrl
    ++ Json.optionalMember "healthCheckUrl" record.healthCheckUrl
    ++ Json.optionalMember "secureHealthCheckUrl" record.secureHealthCheckUrl
    ++ Json.optionalMember "vipAddress" record.vipAddress
    ++ Json.optionalMember "secureVipAddress" record.secureVipAddress
    ++ Json.optionalMember "asgName" record.asgName
    ++ Json.optionalMember "actionType" (record.action.map RegistryAction.name))

/-- The fields in their order. The status that the registry imposes has two spellings. -/
def fields : List (List String) :=
  [["instanceId"], ["hostName"], ["app"], ["appGroupName"], ["ipAddr"], ["status"],
   ["overriddenstatus", "overriddenStatus"], ["port"], ["securePort"], ["countryId"],
   ["dataCenterInfo"], ["leaseInfo"], ["metadata"], ["homePageUrl"], ["statusPageUrl"],
   ["healthCheckUrl"], ["secureHealthCheckUrl"], ["vipAddress"], ["secureVipAddress"],
   ["asgName"], ["isCoordinatingDiscoveryServer"], ["lastUpdatedTimestamp"],
   ["lastDirtyTimestamp"], ["actionType"]]

/-- Reads a record, of which only the application has to be present. The first argument bounds the
levels of arrays and objects, the record's own among them. -/
def ofDocument? (depth : Nat) (item : Document) : Option Instance := do
  let record ← Json.Record.ofDocument? fields item
  let instanceId ← record.withDefault "instanceId" Document.text? ""
  let hostName ← record.withDefault "hostName" Document.text? ""
  let app ← record.required "app" Document.text?
  let appGroup ← record.withDefault "appGroupName" Document.optionalText? none
  let ipAddress ← record.withDefault "ipAddr" Document.text? ""
  let status ← record.withDefault "status" InstanceStatus.ofDocument? .unknown
  let overriddenStatus ← record.withDefault "overriddenstatus" InstanceStatus.ofDocument? .unknown
  let port ← record.withDefault "port" PortSetting.ofDocument? .plainDefault
  let securePort ← record.withDefault "securePort" PortSetting.ofDocument? .secureDefault
  let countryId ← record.withDefault "countryId" Document.int32? 1
  let dataCenter ← record.withDefault "dataCenterInfo" (DataCenter.ofDocument? (depth - 1)) .generic
  let lease ← record.withDefault "leaseInfo" Lease.ofDocument?
    (.new Lease.defaultInterval Lease.defaultDuration)
  let metadata ← record.withDefault "metadata" (Document.textMap? (depth - 1)) ∅
  let homePageUrl ← record.withDefault "homePageUrl" Document.optionalText? none
  let statusPageUrl ← record.withDefault "statusPageUrl" Document.optionalText? none
  let healthCheckUrl ← record.withDefault "healthCheckUrl" Document.optionalText? none
  let secureHealthCheckUrl ← record.withDefault "secureHealthCheckUrl" Document.optionalText? none
  let vipAddress ← record.withDefault "vipAddress" Document.optionalText? none
  let secureVipAddress ← record.withDefault "secureVipAddress" Document.optionalText? none
  let asgName ← record.withDefault "asgName" Document.optionalText? none
  let isRegistryServer ← record.withDefault "isCoordinatingDiscoveryServer" Document.flag? false
  let lastUpdated ← record.withDefault "lastUpdatedTimestamp" Document.int64? 0
  let lastDirty ← record.withDefault "lastDirtyTimestamp" Document.int64? 0
  let action ← record.withDefault "actionType" RegistryAction.ofOptional? none
  return { instanceId, hostName, app, appGroup, ipAddress, status, overriddenStatus, port,
           securePort, countryId, dataCenter, lease, metadata, homePageUrl, statusPageUrl,
           healthCheckUrl, secureHealthCheckUrl, vipAddress, secureVipAddress, asgName,
           isRegistryServer, lastUpdated, lastDirty, action, dirty := false }

def toEnvelope (record : Instance) : Json :=
  .ofMembers [("instance", record.toJson)]

def ofEnvelope? (depth : Nat) (item : Document) : Option Instance := do
  let envelope ← Json.Record.ofDocument? [["instance"]] item
  envelope.required "instance" (ofDocument? (depth - 1))

end Instance

namespace Application

def toJson (app : Application) : Json :=
  .ofMembers [("name", .string app.name), ("instance", .array (app.instances.map Instance.toJson))]

/-- Reads a list of instances: an array of them, a single one, or null for none. Every part of it
has to denote a value, also the parts that are skipped. -/
def instances? (depth : Nat) (item : Document) : Option (List Instance) :=
  if (item.toJson? depth).isNone then none
  else
    let single := (Instance.ofDocument? Document.maxDepth item).map fun record => [record]
    match item with
    | .null => some []
    | .array items => (items.mapM (Instance.ofDocument? Document.maxDepth)).or single
    | _ => single

def ofDocument? (depth : Nat) (item : Document) : Option Application := do
  let record ← Json.Record.ofDocument? [["name"], ["instance"]] item
  let name ← record.required "name" Document.text?
  let instances ← record.withDefault "instance" (instances? (depth - 1)) []
  return { name, instances }

def toEnvelope (app : Application) : Json :=
  .ofMembers [("application", app.toJson)]

def ofEnvelope? (depth : Nat) (item : Document) : Option Application := do
  let envelope ← Json.Record.ofDocument? [["application"]] item
  envelope.required "application" (ofDocument? (depth - 1))

end Application

end MemberDiscovery
