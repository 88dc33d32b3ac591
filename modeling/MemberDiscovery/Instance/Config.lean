import MemberDiscovery.Config.PropertySet
import MemberDiscovery.Instance.Basic
import MemberDiscovery.Net.IpAddress

/-! # What an instance is configured to publish

An `InstanceConfig` holds the values from which the first record of an instance is made. It is read
from the properties of one scope; metadata of a cloud provider or the local cluster member then
replace some of its values. Addresses that are derived from others are derived when the properties
are read, so later replacements leave them as they are.
-/

namespace MemberDiscovery

/-- What the operating system says about the machine. -/
structure Machine where
  hostName : String
  ipAddress : String
  deriving DecidableEq, Repr, Inhabited

namespace Machine

/-- The first of two names that is not blank, trimmed; without one the IP address is the name. -/
def ofNames (fileName hostVariable : Option String) (ipAddress : String) : Machine :=
  let names := (fileName.toList ++ hostVariable.toList).map Text.trim
  { hostName := (names.find? (· ≠ "")).getD ipAddress, ipAddress }

end Machine

/-- The values that the first record of an instance is made from. -/
structure InstanceConfig where
  scopeName : String
  instanceId : Option String
  appName : String
  appGroup : Option String
  /-- Whether the instance takes requests as soon as it is registered. -/
  enabledOnInit : Bool
  port : Int32
  portEnabled : Bool
  securePort : Int32
  securePortEnabled : Bool
  renewalInterval : Int32
  leaseDuration : Int32
  virtualHostName : String
  secureVirtualHostName : String
  asgName : Option String
  hostName : String
  ipAddress : String
  metadata : Table String
  dataCenter : DataCenter
  statusPagePath : String
  statusPageUrl : Option String
  homePagePath : String
  homePageUrl : Option String
  healthCheckPath : String
  healthCheckUrl : Option String
  secureHealthCheckUrl : Option String
  deriving DecidableEq, Repr, Inhabited

def hostAndPort (host : String) (port : Int32) : String :=
  host ++ ":" ++ Integer.render port.toInt

/-- Kinds of data centers that configuration tells apart. -/
inductive DataCenterFlavor where
  /-- A cloud with a metadata service. -/
  | cloud
  | generic
  deriving DecidableEq, Repr, Inhabited

/-- Only `cloud`, trimmed and in any case, names a cloud. -/
def DataCenterFlavor.ofName (name : String) : DataCenterFlavor :=
  if Text.equalsIgnoringCase (Text.trim name) "cloud" then .cloud else .generic

namespace InstanceConfig

def defaultAppName : String := "unknown"

/-- Reads the configuration of a scope. The first property with a value of the wrong shape is
reported: the switch for traffic, the ports with their switches, then the lease. -/
def ofScope (machine : Machine) (scope : Scope) : Except ClientError InstanceConfig := do
  let enabledOnInit ← scope.flag "traffic.enabled" false
  let port ← scope.int32 "port" 80
  let portEnabled ← scope.flag "port.enabled" true
  let securePort ← scope.int32 "securePort" 443
  let securePortEnabled ← scope.flag "securePort.enabled" false
  let renewalInterval ← scope.int32 "lease.renewalInterval" Lease.defaultInterval
  let leaseDuration ← scope.int32 "lease.duration" Lease.defaultDuration
  let hostName := scope.text "hostname" machine.hostName
  return {
    scopeName := scope.name
    instanceId := scope.get? "instanceId"
    appName := scope.text "name" defaultAppName
    appGroup := scope.get? "appGroup"
    enabledOnInit, port, portEnabled, securePort, securePortEnabled
    renewalInterval, leaseDuration
    virtualHostName := scope.text "vipAddress" (hostAndPort hostName port)
    secureVirtualHostName := scope.text "secureVipAddress" (hostAndPort hostName securePort)
    asgName := scope.get? "asgName"
    hostName
    ipAddress := scope.text "ipAddress" machine.ipAddress
    metadata := scope.below "metadata"
    dataCenter := .generic
    statusPagePath := scope.text "statusPageUrlPath" "/Status"
    statusPageUrl := scope.get? "statusPageUrl"
    homePagePath := scope.text "homePageUrlPath" "/"
    homePageUrl := scope.get? "homePageUrl"
    healthCheckPath := scope.text "healthCheckUrlPath" "/healthcheck"
    healthCheckUrl := scope.get? "healthCheckUrl"
    secureHealthCheckUrl := scope.get? "secureHealthCheckUrl" }

def ofProperties (machine : Machine) (scopeName : String) (properties : PropertySet) :
    Except ClientError InstanceConfig :=
  ofScope machine (properties.scope scopeName)

/-- A value of provider metadata that is not empty. -/
def metadataValue? (metadata : Table String) (key : String) : Option String :=
  (metadata.get? key).filter (· ≠ "")

/-- Takes identity and address from the metadata of a cloud provider, as far as it has them. -/
def withProviderMetadata (metadata : Table String) (config : InstanceConfig) : InstanceConfig :=
  { config with
    instanceId := (metadataValue? metadata "instance-id").or config.instanceId
    hostName := ((metadataValue? metadata "public-hostname").or
      (metadataValue? metadata "local-hostname")).getD config.hostName
    ipAddress := (metadataValue? metadata "local-ipv4").getD config.ipAddress
    dataCenter := .amazon metadata }

/-- Gives the instance an id of its own and the private address of the local member, if there is
one. -/
def forMember (instanceId : String) (node : Option Node) (config : InstanceConfig) :
    InstanceConfig :=
  match node with
  | some node =>
    { config with
      instanceId := some instanceId
      port := Int32.ofNat node.privateAddress.port.toNat
      ipAddress := node.privateAddress.host }
  | none => { config with instanceId := some instanceId }

def withAppName (appName : String) (config : InstanceConfig) : InstanceConfig :=
  { config with appName }

/-- The URL of a page: the configured one, or the path at the instance's host and port. -/
def pageUrl (scheme host : String) (port : Int32) (path : String) : String :=
  scheme ++ "://" ++ hostAndPort host port ++ path

end InstanceConfig

def Instance.ofConfig (config : InstanceConfig) (now : Timestamp) : Instance :=
  let page := InstanceConfig.pageUrl "http" config.hostName config.port
  let record := Instance.new config.appName (config.instanceId.getD config.hostName) now
  { record with
    hostName := config.hostName
    appGroup := config.appGroup.map Text.upper
    ipAddress := config.ipAddress
    port := ⟨config.port, config.portEnabled⟩
    securePort := ⟨config.securePort, config.securePortEnabled⟩
    vipAddress := some config.virtualHostName
    secureVipAddress := some config.secureVirtualHostName
    asgName := config.asgName
    dataCenter := config.dataCenter
    lease := .new config.renewalInterval config.leaseDuration
    metadata := config.metadata
    homePageUrl := some (config.homePageUrl.getD (page config.homePagePath))
    statusPageUrl := some (config.statusPageUrl.getD (page config.statusPagePath))
    healthCheckUrl := some (config.healthCheckUrl.getD (page config.healthCheckPath))
    secureHealthCheckUrl := config.secureHealthCheckUrl.or
      (if config.securePortEnabled then
        some (InstanceConfig.pageUrl "https" config.hostName config.securePort
          config.healthCheckPath)
      else none)
    status := if config.enabledOnInit then .up else .starting }

end MemberDiscovery
