import MemberDiscovery.Proofs.Config.Scopes
import MemberDiscovery.Proofs.Discovery.Sources

/-! # Products that share their configuration

Several products may keep their configuration in one property set, each under a name of its own.
Record and client settings of one product depend on its own properties only, errors included
(`scope_isolated`): whatever the others add, change or remove, and also if their names begin with
its name or the other way round, it publishes the same record and asks the same servers.
-/

namespace MemberDiscovery

namespace InstanceConfig

/-- The properties that a record is configured by, apart from its metadata. -/
def suffixes : List String :=
  ["traffic.enabled", "port", "port.enabled", "securePort", "securePort.enabled",
    "lease.renewalInterval", "lease.duration", "hostname", "ipAddress", "instanceId", "name",
    "appGroup", "asgName", "vipAddress", "secureVipAddress", "statusPageUrlPath", "statusPageUrl",
    "homePageUrlPath", "homePageUrl", "healthCheckUrlPath", "healthCheckUrl",
    "secureHealthCheckUrl"]

variable {left right : Scope}

/-- A configuration depends on nothing but the properties that it is read from. -/
theorem ofScope_congr (machine : Machine) (hname : left.name = right.name)
    (hread : ∀ suffix ∈ suffixes, left.get? suffix = right.get? suffix)
    (hmetadata : left.below "metadata" = right.below "metadata") :
    ofScope machine left = ofScope machine right := by
  have htext : ∀ suffix default : String, suffix ∈ suffixes →
      left.text suffix default = right.text suffix default := by
    intro suffix default hmem
    rw [Scope.text, Scope.text, hread suffix hmem]
  have hvalue : ∀ {α : Type} (suffix : String) (default : α) (parse? : String → Option α),
      suffix ∈ suffixes → left.read suffix default parse? = right.read suffix default parse? := by
    intro α suffix default parse? hmem
    rw [Scope.read, Scope.read, hread suffix hmem, Scope.key, Scope.key, hname]
  unfold ofScope Scope.flag Scope.int32
  simp (disch := decide) only [hvalue, htext, hread, hmetadata, hname]

end InstanceConfig

namespace Action

variable {left right : Scope}

/-- Where the provider is asked is a property of the scope as well. -/
theorem readInstanceConfig_scope_congr (flavor : DataCenterFlavor) (hname : left.name = right.name)
    (hread : ∀ suffix ∈ InstanceConfig.suffixes, left.get? suffix = right.get? suffix)
    (hmetadata : left.below "metadata" = right.below "metadata")
    (hurl : left.get? "amazon.metadataUrl" = right.get? "amazon.metadataUrl") :
    readInstanceConfig flavor left = readInstanceConfig flavor right := by
  have hconfig : ∀ machine, InstanceConfig.ofScope machine left =
      InstanceConfig.ofScope machine right := fun machine =>
    InstanceConfig.ofScope_congr machine hname hread hmetadata
  unfold readInstanceConfig Scope.text
  simp only [hconfig, hurl]

end Action

/-- What two property sets configure under the name of a scope is the same. -/
structure ConfigureAlike (scopeName : String) (left right : PropertySet) : Prop where
  /-- Either the same configuration or the same error. -/
  instanceConfig : ∀ machine, InstanceConfig.ofProperties machine scopeName left =
    InstanceConfig.ofProperties machine scopeName right
  clientSettings : ClientSettings.ofProperties scopeName left =
    ClientSettings.ofProperties scopeName right
  /-- In a cloud, the same requests are made of the provider. -/
  requests : ∀ flavor, Action.readInstanceConfig flavor (left.scope scopeName) =
    Action.readInstanceConfig flavor (right.scope scopeName)
  /-- In a cloud, processes whose provider gives the same answers are configured the same. -/
  cloudConfig : ∀ (flavor : DataCenterFlavor) (first second : Deployment),
    first.machine = second.machine → first.network = second.network →
      ((Action.readInstanceConfig flavor (left.scope scopeName)).exec first).1 =
        ((Action.readInstanceConfig flavor (right.scope scopeName)).exec second).1
  /-- The records are the same, whatever member is configured over them. -/
  record : ∀ (flavor : DataCenterFlavor) (layers : ConfigLayers) (now : Timestamp)
    (first second : Deployment), first.machine = second.machine → first.network = second.network →
      (((Action.readInstanceConfig flavor (left.scope scopeName)).exec first).1.map fun config =>
          Instance.ofConfig (layers.apply config) now) =
        ((Action.readInstanceConfig flavor (right.scope scopeName)).exec second).1.map fun config =>
          Instance.ofConfig (layers.apply config) now
  servers : (ClientSettings.ofProperties scopeName left).map ClientSettings.orderedUrls =
    (ClientSettings.ofProperties scopeName right).map ClientSettings.orderedUrls

theorem PropertySet.AgreeIn.configureAlike {scopeName : String} {left right : PropertySet}
    (hagree : AgreeIn scopeName left right) : ConfigureAlike scopeName left right := by
  have hread := congrFun hagree.get?_scope
  have hbelow := congrFun hagree.below_scope
  have hsettings : ClientSettings.ofProperties scopeName left =
      ClientSettings.ofProperties scopeName right :=
    ClientSettings.ofScope_congr rfl (fun suffix _ => hread suffix) (hbelow "serviceUrl")
  have hrequests : ∀ flavor, Action.readInstanceConfig flavor (left.scope scopeName) =
      Action.readInstanceConfig flavor (right.scope scopeName) := by
    intro flavor
    apply Action.readInstanceConfig_scope_congr
    · rfl
    · exact fun suffix _ => hread suffix
    · exact hbelow "metadata"
    · exact hread "amazon.metadataUrl"
  have hcloud : ∀ (flavor : DataCenterFlavor) (first second : Deployment),
      first.machine = second.machine → first.network = second.network →
        ((Action.readInstanceConfig flavor (left.scope scopeName)).exec first).1 =
          ((Action.readInstanceConfig flavor (right.scope scopeName)).exec second).1 := by
    intro flavor first second hmachine hnetwork
    rw [hrequests, Action.readInstanceConfig_congr hmachine hnetwork]
  exact {
    instanceConfig := fun machine => InstanceConfig.ofScope_congr machine rfl
      (fun suffix _ => hread suffix) (hbelow "metadata")
    clientSettings := hsettings
    requests := hrequests
    cloudConfig := hcloud
    record := fun flavor layers now first second hmachine hnetwork => by
      rw [hcloud flavor first second hmachine hnetwork]
    servers := by rw [hsettings] }

/-- A product is configured by its own properties only. Others may edit theirs, and a name that
merely begins with the name of the product, or that the name of the product merely begins with, is
the name of another one. -/
theorem scope_isolated (scopeName : String) (properties : PropertySet) :
    (∀ other, properties.AgreeIn scopeName other → ConfigureAlike scopeName properties other) ∧
    (∀ edits : List PropertyEdit, (∀ edit ∈ edits, ¬ Scope.Owns scopeName edit.key) →
      ConfigureAlike scopeName properties (edits.foldl PropertyEdit.apply properties)) ∧
    ∀ other more suffix : String, more ≠ "" → more.toList.head? ≠ some '.' →
      other = scopeName ++ more ∨ scopeName = other ++ more →
        ¬ Scope.Owns scopeName (other ++ "." ++ suffix) := by
  refine ⟨fun other hagree => hagree.configureAlike, ?_, ?_⟩
  · intro edits houtside
    exact (PropertyEdit.agreeIn_foldl_apply houtside properties).configureAlike
  · rintro other more suffix hmore hpoint (rfl | rfl)
    · exact Scope.not_owns_of_longer hmore hpoint suffix
    · exact Scope.not_owns_of_shorter hmore hpoint suffix

/-- Three products with similar names. -/
def sampleShared : PropertySet :=
  Table.ofList [("hazelcast.port", "5701"), ("hazelcast.serviceUrl.default", "memory://registry"),
    ("hazelcast2.port", "80"), ("hazel.serviceUrl.default", "memory://other")]

/-- One of the products alone. -/
def sampleAlone : PropertySet :=
  (sampleShared.erase "hazelcast2.port").erase "hazel.serviceUrl.default"

/-- What the others do with their properties, and with one that has no point behind the name. -/
def sampleEdits : List PropertyEdit :=
  [.insert "hazelcast2.port" "none", .remove "hazel.serviceUrl.default",
    .insert "hazelcast" "off", .insert "hazelcast2.serviceUrl.default" "memory://other"]

/-- The product alone, and the product beside others that edit their properties. -/
theorem sample_scope_isolated :
    (sampleAlone ≠ sampleShared ∧ sampleShared.AgreeIn "hazelcast" sampleAlone ∧
      ConfigureAlike "hazelcast" sampleShared sampleAlone) ∧
    sampleEdits.foldl PropertyEdit.apply sampleShared ≠ sampleShared ∧
    (∀ edit ∈ sampleEdits, ¬ Scope.Owns "hazelcast" edit.key) ∧
    ConfigureAlike "hazelcast" sampleShared
      (sampleEdits.foldl PropertyEdit.apply sampleShared) := by
  obtain ⟨hagree, hedits, hnames⟩ := scope_isolated "hazelcast" sampleShared
  have hlonger : ∀ suffix, ¬ Scope.Owns "hazelcast" ("hazelcast2" ++ "." ++ suffix) := fun suffix =>
    hnames "hazelcast2" "2" suffix (by decide) (by decide) (.inl rfl)
  have hshorter : ∀ suffix, ¬ Scope.Owns "hazelcast" ("hazel" ++ "." ++ suffix) := fun suffix =>
    hnames "hazel" "cast" suffix (by decide) (by decide) (.inr rfl)
  have hname : ¬ Scope.Owns "hazelcast" "hazelcast" := by
    rintro ⟨suffix, heq⟩
    have hlength := congrArg String.length heq
    have hpoint : ".".length = 1 := by decide
    rw [String.length_append, String.length_append] at hlength
    omega
  have halone : sampleShared.AgreeIn "hazelcast" sampleAlone := by
    intro key howns
    rw [sampleAlone, Table.get?_erase, if_neg, Table.get?_erase, if_neg]
    · rintro rfl
      exact hlonger "port" howns
    · rintro rfl
      exact hshorter "serviceUrl.default" howns
  have houtside : ∀ edit ∈ sampleEdits, ¬ Scope.Owns "hazelcast" edit.key := by
    simp only [sampleEdits, List.forall_mem_cons, PropertyEdit.key]
    exact ⟨hlonger "port", hshorter "serviceUrl.default", hname, hlonger "serviceUrl.default",
      List.forall_mem_nil _⟩
  refine ⟨⟨?_, halone, hagree _ halone⟩, ?_, houtside, hedits sampleEdits houtside⟩
  · decide +kernel
  · decide +kernel

end MemberDiscovery
