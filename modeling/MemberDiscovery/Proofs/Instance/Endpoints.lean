import MemberDiscovery.Instance.Config
import MemberDiscovery.Proofs.Deployment.Soundness
import MemberDiscovery.Proofs.Number.Decimal

/-! # The endpoint that a record names

A record names the endpoint of its instance several times: as host and ports, in two virtual
addresses and in the URLs of three pages. Host and port of the properties can be replaced, by the
metadata of a cloud provider and by the local member. The pages are always at the replacements.
The virtual addresses, if they are not configured, are derived from the properties before anything
is replaced. Main statement: they name the same endpoint as the rest of the record exactly if every
replacement agrees with the properties (`ConfigLayers.names_endpoint_iff`).
-/

namespace MemberDiscovery

theorem toList_hostAndPort (host : String) (port : Int32) :
    (hostAndPort host port).toList = host.toList ++ ':' :: (Integer.render port.toInt).toList := by
  rw [hostAndPort, String.toList_append, String.toList_append, List.append_assoc]
  rfl

/-- Host and port can be read off their text, also if there are colons in the host. -/
theorem hostAndPort_inj {host other : String} {port number : Int32} :
    hostAndPort host port = hostAndPort other number ↔ host = other ∧ port = number := by
  constructor
  · intro heq
    have hchars := congrArg String.toList heq
    rw [toList_hostAndPort, toList_hostAndPort] at hchars
    obtain ⟨hhost, hport⟩ := Text.eq_of_append_cons_eq (Integer.colon_notMem_render _)
      (Integer.colon_notMem_render _) hchars
    have hnumber := Integer.render_injective (String.toList_inj.mp hport)
    exact ⟨String.toList_inj.mp hhost, Int32.toInt_inj.mp hnumber⟩
  · rintro ⟨rfl, rfl⟩
    rfl

/-- What is read from properties for the name of the application and for the addresses. -/
structure InstanceConfig.ReadFrom (config : InstanceConfig) (machine : Machine) (scope : Scope) :
    Prop where
  appName : config.appName = scope.text "name" defaultAppName
  hostName : config.hostName = scope.text "hostname" machine.hostName
  port : scope.int32 "port" 80 = .ok config.port
  virtualHostName : config.virtualHostName =
    scope.text "vipAddress" (hostAndPort config.hostName config.port)
  secureVirtualHostName : config.secureVirtualHostName =
    scope.text "secureVipAddress" (hostAndPort config.hostName config.securePort)
  homePagePath : config.homePagePath = scope.text "homePageUrlPath" "/"
  homePageUrl : config.homePageUrl = scope.get? "homePageUrl"
  statusPagePath : config.statusPagePath = scope.text "statusPageUrlPath" "/Status"
  statusPageUrl : config.statusPageUrl = scope.get? "statusPageUrl"
  healthCheckPath : config.healthCheckPath = scope.text "healthCheckUrlPath" "/healthcheck"
  healthCheckUrl : config.healthCheckUrl = scope.get? "healthCheckUrl"

theorem InstanceConfig.readFrom_of_ofScope {machine : Machine} {scope : Scope}
    {config : InstanceConfig} (hread : ofScope machine scope = .ok config) :
    config.ReadFrom machine scope := by
  unfold ofScope at hread
  obtain ⟨enabledOnInit, -, hread⟩ := bind_eq_ok_iff.mp hread
  obtain ⟨port, hport, hread⟩ := bind_eq_ok_iff.mp hread
  obtain ⟨portEnabled, -, hread⟩ := bind_eq_ok_iff.mp hread
  obtain ⟨securePort, -, hread⟩ := bind_eq_ok_iff.mp hread
  obtain ⟨securePortEnabled, -, hread⟩ := bind_eq_ok_iff.mp hread
  obtain ⟨renewalInterval, -, hread⟩ := bind_eq_ok_iff.mp hread
  obtain ⟨leaseDuration, -, hread⟩ := bind_eq_ok_iff.mp hread
  cases hread
  exact ⟨rfl, rfl, hport, rfl, rfl, rfl, rfl, rfl, rfl, rfl, rfl⟩

/-- What stands around the configuration that is read from the properties of a scope. -/
inductive ConfigLayers where
  | generic
  /-- The metadata of a cloud provider. -/
  | cloud (metadata : Table String)
  /-- A member over another configuration: its id, its node if it has one, and maybe a name for the
  application. -/
  | member (instanceId : String) (node : Option Node) (appName : Option String)
    (inner : ConfigLayers)

namespace ConfigLayers

def apply (config : InstanceConfig) : ConfigLayers → InstanceConfig
  | .generic => config
  | .cloud metadata => config.withProviderMetadata metadata
  | .member instanceId node appName inner =>
    let config := (inner.apply config).forMember instanceId node
    appName.elim config config.withAppName

/-- The host name that replaces the one in the properties. -/
def hostName? : ConfigLayers → Option String
  | .generic => none
  | .cloud metadata =>
    (InstanceConfig.metadataValue? metadata "public-hostname").or
      (InstanceConfig.metadataValue? metadata "local-hostname")
  | .member _ _ _ inner => inner.hostName?

/-- The port that replaces the one in the properties: that of the outermost member with a node. -/
def port? : ConfigLayers → Option Int32
  | .generic => none
  | .cloud _ => none
  | .member _ node _ inner =>
    (node.map fun node => Int32.ofNat node.privateAddress.port.toNat).or inner.port?

/-- What no layer replaces, out of what the addresses of a record are made from. -/
structure Derived (config layered : InstanceConfig) : Prop where
  securePort : layered.securePort = config.securePort
  virtualHostName : layered.virtualHostName = config.virtualHostName
  secureVirtualHostName : layered.secureVirtualHostName = config.secureVirtualHostName
  homePagePath : layered.homePagePath = config.homePagePath
  homePageUrl : layered.homePageUrl = config.homePageUrl
  statusPagePath : layered.statusPagePath = config.statusPagePath
  statusPageUrl : layered.statusPageUrl = config.statusPageUrl
  healthCheckPath : layered.healthCheckPath = config.healthCheckPath
  healthCheckUrl : layered.healthCheckUrl = config.healthCheckUrl

variable {config : InstanceConfig}

theorem derived_apply (layers : ConfigLayers) : Derived config (layers.apply config) := by
  induction layers with
  | generic => constructor <;> rfl
  | cloud metadata => constructor <;> rfl
  | member instanceId node appName inner ih =>
      cases node <;> cases appName <;> exact { ih with }

theorem hostName_apply (layers : ConfigLayers) :
    (layers.apply config).hostName = layers.hostName?.getD config.hostName := by
  induction layers with
  | generic => rfl
  | cloud metadata => rfl
  | member instanceId node appName inner ih =>
      cases node <;> cases appName <;> exact ih

theorem port_apply (layers : ConfigLayers) :
    (layers.apply config).port = layers.port?.getD config.port := by
  induction layers with
  | generic => rfl
  | cloud metadata => rfl
  | member instanceId node appName inner ih =>
      cases node with
      | none => cases appName <;> exact ih
      | some node => cases appName <;> rfl

end ConfigLayers

/-- The virtual addresses and the URLs of the pages are not configured. -/
structure Scope.DerivesAddresses (scope : Scope) : Prop where
  vipAddress : scope.get? "vipAddress" = none
  secureVipAddress : scope.get? "secureVipAddress" = none
  homePageUrl : scope.get? "homePageUrl" = none
  statusPageUrl : scope.get? "statusPageUrl" = none
  healthCheckUrl : scope.get? "healthCheckUrl" = none

/-- The pages of a record are at its own host and port, under the configured paths. -/
structure Instance.PagesAtEndpoint (record : Instance) (scope : Scope) : Prop where
  homePage : record.homePageUrl = some (InstanceConfig.pageUrl "http" record.hostName
    record.port.number (scope.text "homePageUrlPath" "/"))
  statusPage : record.statusPageUrl = some (InstanceConfig.pageUrl "http" record.hostName
    record.port.number (scope.text "statusPageUrlPath" "/Status"))
  healthCheck : record.healthCheckUrl = some (InstanceConfig.pageUrl "http" record.hostName
    record.port.number (scope.text "healthCheckUrlPath" "/healthcheck"))

namespace ConfigLayers

variable {machine : Machine} {scope : Scope} {config : InstanceConfig} {layers : ConfigLayers}
  {now : Timestamp}

theorem pagesAtEndpoint (hread : config.ReadFrom machine scope)
    (hscope : scope.DerivesAddresses) :
    (Instance.ofConfig (layers.apply config) now).PagesAtEndpoint scope := by
  have hderived : Derived config (layers.apply config) := layers.derived_apply
  constructor
  · rw [Instance.ofConfig, hderived.homePageUrl, hread.homePageUrl, hscope.homePageUrl,
      hderived.homePagePath, hread.homePagePath]
    rfl
  · rw [Instance.ofConfig, hderived.statusPageUrl, hread.statusPageUrl, hscope.statusPageUrl,
      hderived.statusPagePath, hread.statusPagePath]
    rfl
  · rw [Instance.ofConfig, hderived.healthCheckUrl, hread.healthCheckUrl, hscope.healthCheckUrl,
      hderived.healthCheckPath, hread.healthCheckPath]
    rfl

theorem vipAddress_ofConfig (hread : config.ReadFrom machine scope)
    (hscope : scope.DerivesAddresses) :
    (Instance.ofConfig (layers.apply config) now).vipAddress =
      some (hostAndPort config.hostName config.port) := by
  have hderived : Derived config (layers.apply config) := layers.derived_apply
  rw [Instance.ofConfig, hderived.virtualHostName, hread.virtualHostName, Scope.text,
    hscope.vipAddress]
  rfl

theorem secureVipAddress_ofConfig (hread : config.ReadFrom machine scope)
    (hscope : scope.DerivesAddresses) :
    (Instance.ofConfig (layers.apply config) now).secureVipAddress =
      some (hostAndPort config.hostName config.securePort) := by
  have hderived : Derived config (layers.apply config) := layers.derived_apply
  rw [Instance.ofConfig, hderived.secureVirtualHostName, hread.secureVirtualHostName, Scope.text,
    hscope.secureVipAddress]
  rfl

/-- A value that replaces another at most is that other one if every replacement is. -/
theorem eq_getD_iff {α : Type} {replacement? : Option α} {value : α} :
    value = replacement?.getD value ↔ ∀ replacement ∈ replacement?, replacement = value := by
  cases replacement? with
  | none => simp
  | some replacement => simp [eq_comm]

/-- A record that is made from properties has its pages at its own host and port, whatever replaces
the host and the port of the properties. Its virtual addresses are at the host and port of the
properties: they name the endpoint of the record if and only if nothing else replaced these. -/
theorem names_endpoint_iff (layers : ConfigLayers) (now : Timestamp)
    (hread : InstanceConfig.ofScope machine scope = .ok config)
    (hscope : scope.DerivesAddresses) :
    let record := Instance.ofConfig (layers.apply config) now
    record.PagesAtEndpoint scope ∧
    (record.vipAddress = some (hostAndPort record.hostName record.port.number) ↔
      (∀ host ∈ layers.hostName?, host = scope.text "hostname" machine.hostName) ∧
      ∀ port ∈ layers.port?, .ok port = scope.int32 "port" 80) ∧
    (record.secureVipAddress = some (hostAndPort record.hostName record.securePort.number) ↔
      ∀ host ∈ layers.hostName?, host = scope.text "hostname" machine.hostName) := by
  have hfrom := InstanceConfig.readFrom_of_ofScope hread
  have hderived : Derived config (layers.apply config) := layers.derived_apply
  intro record
  refine ⟨pagesAtEndpoint hfrom hscope, ?_, ?_⟩
  · rw [vipAddress_ofConfig hfrom hscope, Option.some.injEq]
    change hostAndPort _ _ = hostAndPort (layers.apply config).hostName (layers.apply config).port
      ↔ _
    rw [hostAndPort_inj, hostName_apply, port_apply, eq_getD_iff, eq_getD_iff, ← hfrom.hostName,
      hfrom.port]
    simp only [Except.ok.injEq]
  · rw [secureVipAddress_ofConfig hfrom hscope, Option.some.injEq]
    change hostAndPort _ _ =
      hostAndPort (layers.apply config).hostName (layers.apply config).securePort ↔ _
    rw [hostAndPort_inj, hostName_apply, hderived.securePort, eq_getD_iff, ← hfrom.hostName]
    exact and_iff_left rfl

def sampleScope : Scope :=
  PropertySet.scope (Table.ofList [("hazelcast.hostname", "node-1.internal"),
    ("hazelcast.ipAddress", "10.0.0.1"), ("hazelcast.port", "8080")]) "hazelcast"

/-- A member in a cloud that gives it another host name, with a node at another port. -/
def sampleLayers : ConfigLayers :=
  .member "member" (some ⟨⟨"10.0.0.2", 5701⟩, ⟨"10.0.0.2", 5701⟩, .empty⟩) none
    (.cloud (Table.ofList [("public-hostname", "ec2.example")]))

/-- The record has the new host and port, and both virtual addresses have the old ones. -/
theorem virtual_addresses_not_at_replaced_host :
    ∃ config, InstanceConfig.ofScope default sampleScope = .ok config ∧
      let record := Instance.ofConfig (sampleLayers.apply config) 0
      record.PagesAtEndpoint sampleScope ∧
      record.vipAddress ≠ some (hostAndPort record.hostName record.port.number) ∧
      record.secureVipAddress ≠ some (hostAndPort record.hostName record.securePort.number) := by
  have hscope : sampleScope.DerivesAddresses := by constructor <;> rfl
  have hhost : ¬ ∀ host ∈ sampleLayers.hostName?, host = sampleScope.text "hostname" "" := by
    decide +kernel
  cases hread : InstanceConfig.ofScope default sampleScope with
  | error error =>
      have hok : (InstanceConfig.ofScope default sampleScope).isOk = true := by decide +kernel
      rw [hread] at hok
      cases hok
  | ok config =>
      obtain ⟨hpages, hvip, hsecure⟩ := names_endpoint_iff sampleLayers 0 hread hscope
      refine ⟨config, rfl, hpages, ?_, ?_⟩
      · rw [ne_eq, hvip]
        exact fun hsame => hhost hsame.1
      · rw [ne_eq, hsecure]
        exact hhost

end ConfigLayers

end MemberDiscovery
