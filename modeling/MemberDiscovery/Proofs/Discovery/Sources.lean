import MemberDiscovery.Discovery.Member
import MemberDiscovery.Proofs.Deployment.Exchanges
import MemberDiscovery.Proofs.Instance.Endpoints
import MemberDiscovery.Proofs.Json.Spellings

/-! # The two sources of a configuration

Record and client of a member are configured by its options or by a resource. A resource that says
what the options say, under the name of the scope, leads to the same configuration in all but one
respect (`ConfigSource.options_agree`): the options name the application verbatim, whereas the
resource names it without the blanks around it.
-/

namespace MemberDiscovery

namespace ClientSettings

/-- The properties that settings are read from, apart from the servers. -/
def suffixes : List String :=
  ["zone", "registration.enabled", "shouldFetchRegistry", "preferSameZone",
    "eurekaServer.readTimeout", "eurekaServer.connectTimeout", "eurekaServer.proxyHost",
    "eurekaServer.proxyPort", "eurekaServer.proxyUserName", "eurekaServer.proxyPassword"]

/-- Settings depend on nothing but the properties that they are read from. -/
theorem ofScope_congr {left right : Scope} (hname : left.name = right.name)
    (hread : ∀ suffix ∈ suffixes, left.get? suffix = right.get? suffix)
    (hservers : left.below "serviceUrl" = right.below "serviceUrl") :
    ofScope left = ofScope right := by
  have hkey : ∀ suffix, left.key suffix = right.key suffix := by
    intro suffix
    rw [Scope.key, Scope.key, hname]
  have hvalue : ∀ {α : Type} (suffix : String) (default : α) (parse? : String → Option α),
      suffix ∈ suffixes → left.read suffix default parse? = right.read suffix default parse? := by
    intro α suffix default parse? hmem
    rw [Scope.read, Scope.read, hread suffix hmem, hkey]
  unfold ofScope proxySettings proxyPort timeout Scope.flag Scope.int32 zoneUrls
  rw [hread "eurekaServer.proxyHost" (by decide), hread "eurekaServer.proxyUserName" (by decide),
    hread "eurekaServer.proxyPassword" (by decide), hread "zone" (by decide), hservers, hname]
  simp only [hkey]
  rw [hvalue "eurekaServer.proxyPort" _ _ (by decide),
    hvalue "registration.enabled" _ _ (by decide), hvalue "shouldFetchRegistry" _ _ (by decide),
    hvalue "preferSameZone" _ _ (by decide), hvalue "eurekaServer.readTimeout" _ _ (by decide),
    hvalue "eurekaServer.connectTimeout" _ _ (by decide)]

end ClientSettings

namespace Scope

theorem afterPrefix?_append (front head text : String) :
    afterPrefix? (front ++ head) (front ++ text) = afterPrefix? head text := by
  simp only [afterPrefix?, String.toList_append, List.length_append, ← List.drop_drop,
    List.drop_left, List.isPrefixOf_iff_prefix, List.prefix_append_right_inj]

end Scope

namespace ConfigSource

variable {scopeName : String}

/-- The keys of the plugin's own options as properties of a scope. -/
def pluginKeys (scopeName : String) : List String :=
  OptionDefinition.ofPlugin.map fun definition => scopeName ++ "." ++ definition.key

theorem clientProperties_eq (scopeName : String) (properties : PropertySet) :
    clientProperties scopeName properties =
      (pluginKeys scopeName).foldl Table.erase properties := by
  rw [clientProperties, pluginKeys, List.foldl_map]

/-- The settings of a client are read from none of the plugin's own options. -/
theorem ofProperties_clientProperties (scopeName : String) (properties : PropertySet) :
    ClientSettings.ofProperties scopeName (clientProperties scopeName properties) =
      ClientSettings.ofProperties scopeName properties := by
  rw [clientProperties_eq]
  refine ClientSettings.ofScope_congr ?_ ?_ ?_
  · rfl
  · intro suffix hmem
    have hunread : ∀ suffix ∈ ClientSettings.suffixes, ∀ definition ∈ OptionDefinition.ofPlugin,
        definition.key ≠ suffix := by decide
    have hkey : scopeName ++ "." ++ suffix ∉ pluginKeys scopeName := by
      intro hplugin
      obtain ⟨definition, hdefinition, heq⟩ := List.mem_map.mp hplugin
      exact hunread suffix hmem definition hdefinition ((String.append_right_inj _).mp heq)
    simp only [Scope.get?, PropertySet.scope, Scope.key, Table.get?_foldl_erase hkey]
  · refine congrArg Table.ofList (Table.filterMap_foldl_erase ?_ properties)
    intro entry hplugin
    obtain ⟨definition, hdefinition, heq⟩ := List.mem_map.mp hplugin
    have hother : ∀ definition ∈ OptionDefinition.ofPlugin,
        Scope.afterPrefix? ("serviceUrl" ++ ".") definition.key = none := by decide
    rw [← heq, PropertySet.scope, Scope.key, String.append_assoc, Scope.afterPrefix?_append,
      hother definition hdefinition]
    rfl

/-- A property of the scope is the text of its option. -/
theorem get?_instanceProperties (scopeName : String) (options : OptionTable) (key : String) :
    (instanceProperties scopeName options).get? (scopeName ++ "." ++ key) =
      (options.get? key).map OptionValue.display := by
  have hkeys : (options.toList.map fun entry =>
      (scopeName ++ "." ++ entry.1, entry.2.display)).Pairwise fun a b => a.1 ≠ b.1 := by
    rw [List.pairwise_map]
    refine List.Pairwise.imp ?_ options.ascending
    intro a b hless heq
    rw [(String.append_right_inj _).mp heq] at hless
    exact String.lt_irrefl _ hless
  ext value
  rw [instanceProperties, Table.get?_ofList_iff_mem hkeys]
  constructor
  · intro hmem
    obtain ⟨entry, hentry, heq⟩ := List.mem_map.mp hmem
    obtain ⟨hkey, rfl⟩ := Prod.mk.inj heq
    obtain rfl := (String.append_right_inj _).mp hkey
    rw [Table.mem_entries_iff.mp hentry]
    rfl
  · intro hsome
    obtain ⟨option, hoption, rfl⟩ := Option.map_eq_some_iff.mp hsome
    exact List.mem_map.mpr ⟨(key, option), Table.mem_entries_iff.mpr hoption, rfl⟩

/-- What a scope reads of a property that says the same as an option. -/
theorem get?_scope_instanceProperties (scopeName : String) (options : OptionTable)
    (suffix : String) :
    ((instanceProperties scopeName options).scope scopeName).get? suffix =
      (((options.get? suffix).map OptionValue.display).map Text.trim).filter (· ≠ "") := by
  rw [← get?_instanceProperties scopeName]
  rfl

/-- The resource that says what the options say. -/
def mirror (scopeName : String) (options : OptionTable) : ConfigSource :=
  .resource (instanceProperties scopeName options)

/-- The application as the options name it. -/
def verbatimName (options : OptionTable) : String :=
  ((options.get? OptionDefinition.name.key).map OptionValue.display).getD
    InstanceConfig.defaultAppName

/-- The application as a resource names it that says what the options say. -/
def trimmedName (options : OptionTable) : String :=
  ((((options.get? OptionDefinition.name.key).map OptionValue.display).map Text.trim).filter
    (· ≠ "")).getD InstanceConfig.defaultAppName

/-- Both names are the same unless there are blanks around the name, or nothing else. -/
theorem verbatimName_eq_trimmedName_iff {options : OptionTable} :
    verbatimName options = trimmedName options ↔
      ∀ value, options.get? OptionDefinition.name.key = some value →
        value.display ≠ "" ∧ Text.trim value.display = value.display := by
  unfold verbatimName trimmedName
  cases hvalue : options.get? OptionDefinition.name.key with
  | none => simp
  | some value =>
      simp only [Option.map_some, Option.getD_some, Option.some.injEq, forall_eq']
      by_cases hblank : Text.trim value.display = ""
      · rw [hblank, Option.filter_some, if_neg (by simp), Option.getD_none]
        constructor
        · intro heq
          rw [heq] at hblank
          exact absurd hblank (by decide)
        · rintro ⟨hne, heq⟩
          exact absurd heq.symm hne
      · rw [Option.filter_some, if_pos (by simpa using hblank), Option.getD_some]
        constructor
        · intro heq
          rw [← heq] at hblank
          exact ⟨hblank, heq.symm⟩
        · exact fun hsame => hsame.2.symm

/-- Without an override a text option has the text of its value, as it stands. -/
theorem text_of_override?_eq_none {lookup : OptionLookup} {definition : OptionDefinition}
    (hkind : definition.kind = .text) (hnone : lookup.override? definition.key = none)
    (default : String) :
    lookup.text definition default =
      .ok (((lookup.values.get? definition.key).map OptionValue.display).getD default) := by
  rw [OptionLookup.text, OptionLookup.get, OptionLookup.raw?, hnone]
  cases lookup.values.get? definition.key with
  | none => rfl
  | some value => simp [Except.map, OptionDefinition.convert, hkind, OptionValue.display]

theorem ofOptions_eq {lookup : OptionLookup}
    (hname : lookup.override? OptionDefinition.name.key = none)
    (hdataCenter : lookup.override? OptionDefinition.dataCenter.key = none)
    (scopeName : String) :
    ofOptions scopeName lookup =
      .ok (.options (instanceProperties scopeName lookup.values)
        (clientProperties scopeName (instanceProperties scopeName lookup.values))
        (((lookup.values.get? OptionDefinition.dataCenter.key).map OptionValue.display).getD "")
        (verbatimName lookup.values)) := by
  rw [ofOptions, text_of_override?_eq_none rfl hdataCenter, text_of_override?_eq_none rfl hname]
  rfl

/-- The kind of data center does not depend on blanks, so both sources say the same. -/
theorem flavor_mirror (scopeName : String) (options : OptionTable) :
    DataCenterFlavor.ofName (((options.get? OptionDefinition.dataCenter.key).map
        OptionValue.display).getD "") =
      .ofName (((instanceProperties scopeName options).scope scopeName).text "datacenter" "") := by
  have hkey : "datacenter" = OptionDefinition.dataCenter.key := rfl
  rw [Scope.text, get?_scope_instanceProperties, hkey]
  cases options.get? OptionDefinition.dataCenter.key with
  | none => rfl
  | some value =>
      by_cases hblank : Text.trim value.display = ""
      · have hempty : Text.trim "" = "" := by decide
        simp [DataCenterFlavor.ofName, Option.filter_some, hblank, hempty]
      · simp [DataCenterFlavor.ofName, Option.filter_some, hblank, Text.trim_trim]

end ConfigSource

/-! ## The configuration of a record -/

/-- What a provider says does not change the application. -/
theorem Action.appName_of_readInstanceConfig {flavor : DataCenterFlavor} {scope : Scope}
    {deployment : Deployment} {config : InstanceConfig}
    (hread : ((readInstanceConfig flavor scope).exec deployment).1 = .ok config) :
    config.appName = scope.text "name" InstanceConfig.defaultAppName := by
  obtain ⟨answer, network, trace, hexec, -, hconfig⟩ :=
    exec_readInstanceConfig flavor scope deployment
  rw [hexec] at hread
  obtain ⟨read, hscope, hsame⟩ := hconfig config hread
  rw [← (InstanceConfig.readFrom_of_ofScope hscope).appName]
  rcases hsame with rfl | ⟨metadata, rfl⟩
  · rfl
  · rfl

/-- The configuration that a member makes is the one that is read, with an id of its own. -/
theorem MemberPlan.exists_makeConfig (plan : MemberPlan) (scopeName : String)
    (source : ConfigSource) (deployment : Deployment) :
    ∃ id, ((plan.makeConfig scopeName source).exec deployment).1 =
      match ((Action.readInstanceConfig (source.forRecord scopeName).2.1
        ((source.forRecord scopeName).1.scope scopeName)).exec deployment).1 with
      | .error error => .error (.client error)
      | .ok read => .ok ((source.forRecord scopeName).2.2.elim (read.forMember id plan.node)
          (read.forMember id plan.node).withAppName) := by
  unfold makeConfig
  dsimp only
  rw [Action.exec_bind]
  generalize (Action.readInstanceConfig _ _).exec deployment = result
  obtain ⟨answer, after⟩ := result
  refine ⟨after.idSource after.idsDrawn, ?_⟩
  cases answer with
  | error error => rfl
  | ok read => rfl

/-- A record without its names and the time. -/
def Instance.unnamed (record : Instance) : Instance :=
  { record with instanceId := "", app := "", lastUpdated := 0, lastDirty := 0 }

/-- An id, an application and a moment make no difference to the rest of a first record. -/
theorem Instance.unnamed_ofConfig (config : InstanceConfig) (node : Option Node)
    (id other appName : String) (now later : Timestamp) :
    (Instance.ofConfig ((config.forMember id node).withAppName appName) now).unnamed =
      (Instance.ofConfig (config.forMember other node) later).unnamed := by
  cases node with
  | none => rfl
  | some node => rfl

/-- Two answers are the same error, or values that are alike. -/
inductive Alike {α β ε : Type} (related : α → β → Prop) : Except ε α → Except ε β → Prop where
  | error (error : ε) : Alike related (.error error) (.error error)
  | ok {value : α} {other : β} (hrelated : related value other) :
      Alike related (.ok value) (.ok other)

theorem Alike.refl {α ε : Type} {related : α → α → Prop} (hrefl : ∀ value, related value value)
    (answer : Except ε α) : Alike related answer answer := by
  cases answer with
  | error error => exact .error error
  | ok value => exact .ok (hrefl value)

namespace ConfigSource

/-- Configurations of a record whose records differ at most in id, time and application, which is
named once verbatim and once trimmed. -/
structure SameRecord (options : OptionTable) (own shared : InstanceConfig) : Prop where
  record : ∀ now later,
    (Instance.ofConfig own now).unnamed = (Instance.ofConfig shared later).unnamed
  verbatim : own.appName = verbatimName options
  trimmed : shared.appName = trimmedName options

theorem sameRecord_makeConfig {lookup : OptionLookup}
    (hname : lookup.override? OptionDefinition.name.key = none)
    (hdataCenter : lookup.override? OptionDefinition.dataCenter.key = none)
    {scopeName : String} {source : ConfigSource} (hsource : ofOptions scopeName lookup = .ok source)
    (plan : MemberPlan) {left right : Deployment} (hmachine : left.machine = right.machine)
    (hnetwork : left.network = right.network) :
    Alike (SameRecord lookup.values) ((plan.makeConfig scopeName source).exec left).1
      ((plan.makeConfig scopeName (mirror scopeName lookup.values)).exec right).1 := by
  rw [ofOptions_eq hname hdataCenter, Except.ok.injEq] at hsource
  subst hsource
  obtain ⟨id, hown⟩ := plan.exists_makeConfig scopeName _ left
  obtain ⟨other, hshared⟩ :=
    plan.exists_makeConfig scopeName (mirror scopeName lookup.values) right
  rw [hown, hshared]
  -- Both read the same properties for the same kind of data center.
  simp only [forRecord, mirror, flavor_mirror scopeName]
  rw [Action.readInstanceConfig_congr hmachine hnetwork]
  cases hread : ((Action.readInstanceConfig _ _).exec right).1 with
  | error error => exact .error _
  | ok read =>
      refine .ok ⟨?_, rfl, ?_⟩
      · intro now later
        exact Instance.unnamed_ofConfig read plan.node id other _ now later
      · have happ := Action.appName_of_readInstanceConfig hread
        rw [Scope.text, get?_scope_instanceProperties] at happ
        refine Eq.trans ?_ happ
        cases plan.node <;> rfl

theorem clientSettings_mirror {lookup : OptionLookup}
    (hname : lookup.override? OptionDefinition.name.key = none)
    (hdataCenter : lookup.override? OptionDefinition.dataCenter.key = none)
    {scopeName : String} {source : ConfigSource} (hsource : ofOptions scopeName lookup = .ok source)
    (registers : Bool) :
    Alike (fun own shared => ∃ registered, own = shared.withRegistration registered)
      (source.clientSettings scopeName registers)
      ((mirror scopeName lookup.values).clientSettings scopeName registers) := by
  rw [ofOptions_eq hname hdataCenter, Except.ok.injEq] at hsource
  subst hsource
  simp only [clientSettings, mirror, ofProperties_clientProperties]
  cases ClientSettings.ofProperties scopeName
      (instanceProperties scopeName lookup.values) with
  | error error => exact .error error
  | ok settings => exact .ok ⟨settings.registers && registers, rfl⟩

/-- Options that nothing overrides and a resource that says the same configure alike. Client
settings differ at most in whether the client registers. Records differ at most in id, time and
application, and in the application only if there are blanks around its name or nothing else. -/
theorem options_agree {lookup : OptionLookup}
    (hname : lookup.override? OptionDefinition.name.key = none)
    (hdataCenter : lookup.override? OptionDefinition.dataCenter.key = none) (scopeName : String) :
    ∃ source, ofOptions scopeName lookup = .ok source ∧
      (∀ registers, Alike (fun own shared => ∃ registered, own = shared.withRegistration registered)
        (source.clientSettings scopeName registers)
        ((mirror scopeName lookup.values).clientSettings scopeName registers)) ∧
      (∀ (plan : MemberPlan) (left right : Deployment), left.machine = right.machine →
        left.network = right.network →
          Alike (SameRecord lookup.values) ((plan.makeConfig scopeName source).exec left).1
            ((plan.makeConfig scopeName (mirror scopeName lookup.values)).exec right).1) ∧
      (verbatimName lookup.values = trimmedName lookup.values ↔
        ∀ value, lookup.values.get? OptionDefinition.name.key = some value →
          value.display ≠ "" ∧ Text.trim value.display = value.display) := by
  refine ⟨_, ofOptions_eq hname hdataCenter scopeName, ?_, ?_, verbatimName_eq_trimmedName_iff⟩
  · exact clientSettings_mirror hname hdataCenter (ofOptions_eq hname hdataCenter scopeName)
  · intro plan left right
    exact sameRecord_makeConfig hname hdataCenter (ofOptions_eq hname hdataCenter scopeName) plan

/-- Options that nothing overrides, with blanks around their texts. -/
def sampleLookup : OptionLookup :=
  ⟨Table.ofList [(OptionDefinition.name.key, .text " app "),
    (OptionDefinition.dataCenter.key, .text " Cloud "),
    ("serviceUrl.default", .text " memory://registry ")], fun _ => none⟩

def sampleStart (clock : Timestamp) : Deployment :=
  Deployment.start clock ⟨"host", "10.0.0.9"⟩ toString

/-- The two processes start at different times. -/
theorem sample_options_agree :
    ∃ source, ofOptions "hazelcast" sampleLookup = .ok source ∧
      Alike (fun own shared => ∃ registered, own = shared.withRegistration registered)
        (source.clientSettings "hazelcast" true)
        ((mirror "hazelcast" sampleLookup.values).clientSettings "hazelcast" true) ∧
      Alike (SameRecord sampleLookup.values)
        ((MemberPlan.blank.makeConfig "hazelcast" source).exec (sampleStart 0)).1
        ((MemberPlan.blank.makeConfig "hazelcast"
          (mirror "hazelcast" sampleLookup.values)).exec (sampleStart 1)).1 := by
  obtain ⟨source, hsource, hsettings, hconfigs, -⟩ :=
    @options_agree sampleLookup rfl rfl "hazelcast"
  exact ⟨source, hsource, hsettings true, hconfigs MemberPlan.blank _ _ rfl rfl⟩

/-- The application of the first record that is configured by a source. -/
def sampleApp (source : ConfigSource) : Option String :=
  ((MemberPlan.blank.makeConfig "hazelcast" source).exec (sampleStart 0)).1.toOption.map
    fun config => (Instance.ofConfig config 0).app

/-- Blanks around the name of the application make a difference between the sources. -/
theorem padded_name_differs :
    (ofOptions "hazelcast" sampleLookup).toOption.bind sampleApp = some " APP " ∧
      sampleApp (mirror "hazelcast" sampleLookup.values) = some "APP" := by
  decide +kernel

end ConfigSource

end MemberDiscovery
