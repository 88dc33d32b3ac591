import MemberDiscovery.Config.PropertySet
import MemberDiscovery.Text.Split

/-! # Settings of a registry client

Which servers a client asks and how, read from the properties of one scope. Servers are listed by
zone; `ClientSettings.orderedUrls` gives the order in which they are tried.
-/

namespace MemberDiscovery

/-- A proxy between client and registry. -/
structure ProxySettings where
  host : String
  port : UInt16
  userName : Option String
  password : Option String
  deriving DecidableEq, Repr, Inhabited

def ProxySettings.url (proxy : ProxySettings) : String :=
  "http://" ++ proxy.host ++ ":" ++ Integer.render proxy.port.toNat

/-- Settings of a registry client. -/
structure ClientSettings where
  scopeName : String
  serviceUrls : Table (List String)
  zone : Option String
  registers : Bool
  fetches : Bool
  /-- Whether servers of the client's zone come first. -/
  prefersZone : Bool
  /-- Seconds to wait for an answer. -/
  readTimeout : Nat
  /-- Seconds to wait for a connection. -/
  connectTimeout : Nat
  proxy : Option ProxySettings
  deriving DecidableEq, Repr, Inhabited

namespace ClientSettings

/-- The zone whose servers are tried whatever the client's zone is. -/
def defaultZone : String := "default"

def default : ClientSettings where
  scopeName := "eureka"
  serviceUrls := ∅
  zone := none
  registers := true
  fetches := true
  prefersZone := true
  readTimeout := 8
  connectTimeout := 5
  proxy := none

def splitUrls (value : String) : List String :=
  ((Text.splitAtChar ',' value).map Text.trim).filter (· ≠ "")

def zoneUrls (scope : Scope) : Table (List String) :=
  ((scope.below "serviceUrl").mapValues splitUrls).filter fun _ urls => !urls.isEmpty

def proxyPort (scope : Scope) : Except ClientError UInt16 := do
  let port ← scope.int32 "eurekaServer.proxyPort" 80
  if 0 ≤ port ∧ port ≤ 65535 then return UInt16.ofNat port.toInt.toNat
  else throw (.invalidProperty (scope.key "eurekaServer.proxyPort") (Integer.render port.toInt))

def proxySettings (scope : Scope) : Except ClientError (Option ProxySettings) :=
  match scope.get? "eurekaServer.proxyHost" with
  | none => .ok none
  | some host => do
    let port ← proxyPort scope
    return some
      { host, port
        userName := scope.get? "eurekaServer.proxyUserName"
        password := scope.get? "eurekaServer.proxyPassword" }

def timeout (scope : Scope) (suffix : String) (default : Nat) : Except ClientError Nat := do
  let seconds ← scope.int32 suffix (Int32.ofNat default)
  if 0 ≤ seconds then return seconds.toInt.toNat
  else throw (.invalidProperty (scope.key suffix) (Integer.render seconds.toInt))

/-- Reads the settings of a scope. The first property with a value of the wrong shape is reported:
the proxy port, the three switches, then the timeouts. -/
def ofScope (scope : Scope) : Except ClientError ClientSettings := do
  let proxy ← proxySettings scope
  let registers ← scope.flag "registration.enabled" default.registers
  let fetches ← scope.flag "shouldFetchRegistry" default.fetches
  let prefersZone ← scope.flag "preferSameZone" default.prefersZone
  let readTimeout ← timeout scope "eurekaServer.readTimeout" default.readTimeout
  let connectTimeout ← timeout scope "eurekaServer.connectTimeout" default.connectTimeout
  return {
    scopeName := scope.name
    serviceUrls := zoneUrls scope
    zone := scope.get? "zone"
    registers, fetches, prefersZone, readTimeout, connectTimeout, proxy }

def ofProperties (scopeName : String) (properties : PropertySet) :
    Except ClientError ClientSettings :=
  ofScope (properties.scope scopeName)

def withRegistration (registers : Bool) (settings : ClientSettings) : ClientSettings :=
  { settings with registers }

def urlsOf (settings : ClientSettings) (zone : String) : List String :=
  (settings.serviceUrls.get? zone).getD []

def addUrls (zone : String) (urls : List String) (settings : ClientSettings) : ClientSettings :=
  { settings with serviceUrls := settings.serviceUrls.insert zone (settings.urlsOf zone ++ urls) }

/-- The zones in the order in which they are asked, with repetitions: the client's own if it is
preferred, the default zone, then all in ascending order. -/
def zoneOrder (settings : ClientSettings) : List String :=
  (if settings.prefersZone then settings.zone.toList else []) ++ defaultZone
    :: settings.serviceUrls.keys

def firstOccurrences (sofar : List String) : List String → List String
  | [] => []
  | url :: urls =>
    if sofar.contains url then firstOccurrences sofar urls
    else url :: firstOccurrences (url :: sofar) urls

def orderedUrls (settings : ClientSettings) : List String :=
  firstOccurrences [] (settings.zoneOrder.flatMap settings.urlsOf)

end ClientSettings

end MemberDiscovery
