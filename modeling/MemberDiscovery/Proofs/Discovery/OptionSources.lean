import MemberDiscovery.Proofs.Config.Checks
import MemberDiscovery.Proofs.Config.Isolation
import MemberDiscovery.Proofs.Discovery.Building

/-! # Where an option comes from

A variable under the dotted name of an option counts before one under its upper-case name, and this
one before the table; blank variables do not count. `OptionLookup.Effective` is the value that
counts. A member takes its options from the values that count (`MemberOptions.ReadFrom`), fails to
be built at the first of them that is no boolean but has to be one, and is not affected by any
other value (`MemberPlan.built_from_effective`).
-/

namespace MemberDiscovery

namespace OptionValue

/-- The values that say yes or no. -/
inductive IsFlag : OptionValue → Bool → Prop where
  | flag (value : Bool) : IsFlag (.flag value) value
  | text (text : String) (value : Bool) (hword : Scope.SpellsFlag (Text.trim text) value) :
      IsFlag (.text text) value

/-- Every value is a text. -/
def IsText (value : OptionValue) (text : String) : Prop :=
  value.display = text

theorem flag?_eq_some_iff {value : OptionValue} {answer : Bool} :
    value.flag? = some answer ↔ value.IsFlag answer := by
  constructor
  · intro hflag
    cases value with
    | flag value =>
        obtain rfl := Option.some.inj hflag
        exact .flag value
    | int value => cases hflag
    | text text => exact .text text answer (Scope.readFlag?_eq_some_iff.mp hflag)
  · rintro (value | ⟨text, answer, hword⟩)
    · rfl
    · exact Scope.readFlag?_eq_some_iff.mpr hword

end OptionValue

namespace OptionLookup

variable {lookup : OptionLookup} {key name : String} {definition : OptionDefinition}

/-- A dotted name begins with a small letter and its upper-case form with a capital one. -/
theorem dottedName_ne_upperSnake (key other : String) :
    dottedName key ≠ upperSnake (dottedName other) := by
  have happend : ∀ {front : String}, front.toList.head? = some 'h' →
      ∀ key, (front ++ key).toList.head? = some 'h' := by
    intro front hfront key
    rw [String.toList_append, List.head?_append, hfront, Option.some_or]
  have hfirst : ∀ key, (dottedName key).toList.head? = some 'h' := happend (by decide)
  intro heq
  have hhead := congrArg (fun name => name.toList.head?) heq
  simp only [hfirst, upperSnake, String.toList_ofList, List.head?_map] at hhead
  exact absurd hhead (by decide)

theorem upperSnake_append_right_inj {front key other : String} :
    upperSnake (front ++ key) = upperSnake (front ++ other) ↔
      upperSnake key = upperSnake other := by
  have happend : ∀ key, upperSnake (front ++ key) = upperSnake front ++ upperSnake key := by
    intro key
    rw [upperSnake, String.toList_append, List.map_append, String.ofList_append]
    rfl
  rw [happend, happend, String.append_right_inj]

example : upperSnake (dottedName "self-registration") =
    "HAZELCAST_EUREKAONE_SELF_REGISTRATION" := by
  decide +kernel

/-- A variable that is absent or blank. -/
def Unset (lookup : OptionLookup) (name : String) : Prop :=
  ∀ text, lookup.environment name = some text → Text.isBlankText text = true

/-- The value of an option that counts, if there is one. -/
inductive Effective (lookup : OptionLookup) (key : String) : Option OptionValue → Prop where
  | dotted (text : String) (hvariable : lookup.environment (dottedName key) = some text)
      (hfilled : Text.isBlankText text = false) : Effective lookup key (some (.text text))
  | snake (text : String) (hdotted : lookup.Unset (dottedName key))
      (hvariable : lookup.environment (upperSnake (dottedName key)) = some text)
      (hfilled : Text.isBlankText text = false) : Effective lookup key (some (.text text))
  | configured (value : OptionValue) (hdotted : lookup.Unset (dottedName key))
      (hsnake : lookup.Unset (upperSnake (dottedName key)))
      (hvalue : lookup.values.get? key = some value) : Effective lookup key (some value)
  | absent (hdotted : lookup.Unset (dottedName key))
      (hsnake : lookup.Unset (upperSnake (dottedName key)))
      (hvalue : lookup.values.get? key = none) : Effective lookup key none

theorem environmentValue?_eq_some_iff {text : String} :
    lookup.environmentValue? name = some text ↔
      lookup.environment name = some text ∧ Text.isBlankText text = false := by
  simp [environmentValue?, Option.filter_eq_some_iff]

theorem environmentValue?_eq_none_iff :
    lookup.environmentValue? name = none ↔ lookup.Unset name := by
  simp [environmentValue?, Unset, Option.filter_eq_none_iff]

theorem effective_iff {value : Option OptionValue} :
    lookup.Effective key value ↔ lookup.raw? key = value := by
  constructor
  · intro heffective
    unfold raw? override?
    cases heffective with
    | dotted text hvariable hfilled =>
        rw [environmentValue?_eq_some_iff.mpr ⟨hvariable, hfilled⟩]
        rfl
    | snake text hdotted hvariable hfilled =>
        rw [environmentValue?_eq_none_iff.mpr hdotted,
          environmentValue?_eq_some_iff.mpr ⟨hvariable, hfilled⟩]
        rfl
    | configured value hdotted hsnake hvalue =>
        rw [environmentValue?_eq_none_iff.mpr hdotted, environmentValue?_eq_none_iff.mpr hsnake]
        exact hvalue
    | absent hdotted hsnake hvalue =>
        rw [environmentValue?_eq_none_iff.mpr hdotted, environmentValue?_eq_none_iff.mpr hsnake]
        exact hvalue
  · rintro rfl
    unfold raw? override?
    cases hdotted : lookup.environmentValue? (dottedName key) with
    | some text =>
        obtain ⟨hvariable, hfilled⟩ := environmentValue?_eq_some_iff.mp hdotted
        exact .dotted text hvariable hfilled
    | none =>
        have hdotted := environmentValue?_eq_none_iff.mp hdotted
        cases hsnake : lookup.environmentValue? (upperSnake (dottedName key)) with
        | some text =>
            obtain ⟨hvariable, hfilled⟩ := environmentValue?_eq_some_iff.mp hsnake
            exact .snake text hdotted hvariable hfilled
        | none =>
            have hsnake := environmentValue?_eq_none_iff.mp hsnake
            simp only [Option.or_none]
            cases hvalue : lookup.values.get? key with
            | some value => exact .configured value hdotted hsnake hvalue
            | none => exact .absent hdotted hsnake hvalue

/-- A value counts for a boolean option that does not say yes or no. -/
def Refuses (lookup : OptionLookup) (definition : OptionDefinition) (error : DiscoveryError) :
    Prop :=
  ∃ value, lookup.Effective definition.key (some value) ∧ (¬ ∃ answer, value.IsFlag answer) ∧
    error = .invalidProperty definition.key value.display

/-- A boolean option is converted twice, but only the first conversion can fail. -/
theorem flag_eq_readOptional (hkind : definition.kind = .flag) (default : Bool) :
    lookup.flag definition default =
      readOptional (lookup.raw? definition.key) default OptionValue.flag?
        fun value => .invalidProperty definition.key value.display := by
  unfold flag get OptionDefinition.convert readOptional
  rw [hkind]
  cases lookup.raw? definition.key with
  | none => rfl
  | some value =>
      dsimp only
      cases value.flag? with
      | none => rfl
      | some answer => rfl

theorem flag_eq_ok_iff (hkind : definition.kind = .flag) {default answer : Bool} :
    lookup.flag definition default = .ok answer ↔
      ReadsAs (lookup.Effective definition.key) default OptionValue.IsFlag answer := by
  rw [flag_eq_readOptional hkind]
  exact readOptional_eq_ok_iff effective_iff OptionValue.flag?_eq_some_iff

theorem flag_eq_error_iff (hkind : definition.kind = .flag) {default : Bool}
    {error : DiscoveryError} :
    lookup.flag definition default = .error error ↔ lookup.Refuses definition error := by
  rw [flag_eq_readOptional hkind]
  exact readOptional_eq_error_iff effective_iff OptionValue.flag?_eq_some_iff

theorem text_eq_readOptional (hkind : definition.kind = .text) (default : String) :
    lookup.text definition default =
      readOptional (lookup.raw? definition.key) default (fun value => some value.display)
        fun value => .invalidProperty definition.key value.display := by
  unfold text get OptionDefinition.convert readOptional
  rw [hkind]
  cases lookup.raw? definition.key with
  | none => rfl
  | some value => rfl

theorem text_eq_ok_iff (hkind : definition.kind = .text) {default text : String} :
    lookup.text definition default = .ok text ↔
      ReadsAs (lookup.Effective definition.key) default OptionValue.IsText text := by
  rw [text_eq_readOptional hkind]
  exact readOptional_eq_ok_iff effective_iff (Option.some_inj ..)

/-- A text option cannot fail. -/
theorem exists_text (hkind : definition.kind = .text) (default : String) :
    ∃ text, lookup.text definition default = .ok text := by
  rw [text_eq_readOptional hkind]
  cases lookup.raw? definition.key with
  | none => exact ⟨default, rfl⟩
  | some value => exact ⟨value.display, rfl⟩

end OptionLookup

namespace OptionDefinition

/-- The boolean options of a member, in the order in which they are read. -/
def flagsOfMember : List OptionDefinition :=
  [selfRegistration, useMetadata, useResource, skipVerification]

/-- The options that a member uses itself, in the order in which they are read. -/
def ofMember : List OptionDefinition :=
  scopeName :: flagsOfMember

end OptionDefinition

namespace MemberOptions

open OptionDefinition (flagsOfMember)

variable {lookup : OptionLookup} {options : MemberOptions}

/-- The options of a member are the values that count, and the defaults where none counts. -/
structure ReadFrom (options : MemberOptions) (lookup : OptionLookup) : Prop where
  scopeName :
    ReadsAs (lookup.Effective "namespace") "hazelcast" OptionValue.IsText options.scopeName
  selfRegistration : ReadsAs (lookup.Effective "self-registration") true OptionValue.IsFlag
    options.selfRegistration
  usesMetadata : ReadsAs (lookup.Effective "use-metadata-for-host-and-port") false
    OptionValue.IsFlag options.usesMetadata
  usesResource : ReadsAs (lookup.Effective "use-classpath-eureka-client-props") true
    OptionValue.IsFlag options.usesResource
  skipsVerification : ReadsAs (lookup.Effective "skip-eureka-registration-verification") false
    OptionValue.IsFlag options.skipsVerification

theorem read_eq_ok_iff : read lookup = .ok options ↔ options.ReadFrom lookup := by
  unfold read
  simp only [bind_eq_ok_iff]
  constructor
  · rintro ⟨scopeName, hscope, selfRegistration, hself, usesMetadata, hmetadata, usesResource,
      hresource, skipsVerification, hskips, hread⟩
    obtain rfl := Except.ok.inj hread
    exact {
      scopeName := (OptionLookup.text_eq_ok_iff rfl).mp hscope
      selfRegistration := (OptionLookup.flag_eq_ok_iff rfl).mp hself
      usesMetadata := (OptionLookup.flag_eq_ok_iff rfl).mp hmetadata
      usesResource := (OptionLookup.flag_eq_ok_iff rfl).mp hresource
      skipsVerification := (OptionLookup.flag_eq_ok_iff rfl).mp hskips }
  · rintro ⟨hscope, hself, hmetadata, hresource, hskips⟩
    exact ⟨_, (OptionLookup.text_eq_ok_iff rfl).mpr hscope,
      _, (OptionLookup.flag_eq_ok_iff rfl).mpr hself,
      _, (OptionLookup.flag_eq_ok_iff rfl).mpr hmetadata,
      _, (OptionLookup.flag_eq_ok_iff rfl).mpr hresource,
      _, (OptionLookup.flag_eq_ok_iff rfl).mpr hskips, rfl⟩

theorem read_failsFirst (lookup : OptionLookup) :
    FailsFirst lookup.Refuses flagsOfMember (read lookup) := by
  unfold read
  obtain ⟨scopeName, hscope⟩ :=
    @OptionLookup.exists_text lookup .scopeName rfl defaultScopeName
  rw [hscope]
  change FailsFirst lookup.Refuses flagsOfMember (lookup.flag .selfRegistration true >>= _)
  refine .bind (fun error => OptionLookup.flag_eq_error_iff rfl) fun _ _ => ?_
  refine .bind (fun error => OptionLookup.flag_eq_error_iff rfl) fun _ _ => ?_
  refine .bind (fun error => OptionLookup.flag_eq_error_iff rfl) fun _ _ => ?_
  refine .bind (fun error => OptionLookup.flag_eq_error_iff rfl) fun _ _ => ?_
  exact .ok _

end MemberOptions

/-! ## Values that do not count -/

namespace OptionLookup

open OptionDefinition (ofMember)
open ConfigSource (instanceProperties)

variable {left right : OptionLookup} {suffix : String}

/-- Options of a member that are the same in effect. Under its own options there may be anything
else that does not count; for everything else there is the same. -/
structure SameEffect (left right : OptionLookup) : Prop where
  effective : ∀ definition ∈ ofMember, ∃ value,
    left.Effective definition.key value ∧ right.Effective definition.key value
  values : ∀ key, (∀ definition ∈ ofMember, key ≠ definition.key) →
    left.values.get? key = right.values.get? key
  environment : ∀ name, (∀ definition ∈ ofMember, name ≠ dottedName definition.key ∧
    name ≠ upperSnake (dottedName definition.key)) → left.environment name = right.environment name

namespace SameEffect

/-- The options of the plugin that are not the member's own are looked up elsewhere. -/
theorem get_eq (hsame : SameEffect left right) :
    ∀ definition ∈ OptionDefinition.ofPlugin, left.get definition = right.get definition := by
  intro definition hplugin
  have hraw : left.raw? definition.key = right.raw? definition.key := by
    by_cases hown : definition ∈ ofMember
    · obtain ⟨value, hleft, hright⟩ := hsame.effective definition hown
      rw [effective_iff.mp hleft, effective_iff.mp hright]
    · have hnames : ∀ definition ∈ OptionDefinition.ofPlugin, definition ∉ ofMember →
          ∀ own ∈ ofMember, definition.key ≠ own.key ∧
            upperSnake definition.key ≠ upperSnake own.key := by
        decide +kernel
      have hother := hnames definition hplugin hown
      have hdotted : left.environment (dottedName definition.key) =
          right.environment (dottedName definition.key) := by
        refine hsame.environment _ fun own hmem => ⟨?_, dottedName_ne_upperSnake _ _⟩
        exact mt (String.append_right_inj _).mp (hother own hmem).1
      have hsnake : left.environment (upperSnake (dottedName definition.key)) =
          right.environment (upperSnake (dottedName definition.key)) := by
        refine hsame.environment _ fun own hmem => ⟨(dottedName_ne_upperSnake _ _).symm, ?_⟩
        exact mt upperSnake_append_right_inj.mp (hother own hmem).2
      simp only [raw?, override?, environmentValue?, hdotted, hsnake,
        hsame.values _ fun own hmem => (hother own hmem).1]
  rw [get, get, hraw]

theorem read_eq (hsame : SameEffect left right) :
    MemberOptions.read left = MemberOptions.read right := by
  unfold MemberOptions.read text flag
  simp (disch := decide) only [hsame.get_eq]

theorem get?_scope (hsame : SameEffect left right) (scopeName : String)
    (hother : ∀ own ∈ ofMember, suffix ≠ own.key) :
    ((instanceProperties scopeName left.values).scope scopeName).get? suffix =
      ((instanceProperties scopeName right.values).scope scopeName).get? suffix := by
  rw [ConfigSource.get?_scope_instanceProperties, ConfigSource.get?_scope_instanceProperties,
    hsame.values suffix hother]

theorem below_scope (hsame : SameEffect left right) (scopeName : String)
    (hother : ∀ own ∈ ofMember, Scope.afterPrefix? (suffix ++ ".") own.key = none) :
    ((instanceProperties scopeName left.values).scope scopeName).below suffix =
      ((instanceProperties scopeName right.values).scope scopeName).below suffix := by
  apply Table.ext_get?
  intro rest
  have hkey : scopeName ++ "." ++ suffix ++ "." ++ rest =
      scopeName ++ "." ++ (suffix ++ "." ++ rest) := by
    simp only [String.append_assoc]
  simp only [Scope.get?_below, PropertySet.scope, Scope.key, hkey,
    ConfigSource.get?_instanceProperties]
  rw [hsame.values]
  rintro own hmem heq
  have hnone := hother own hmem
  rw [Scope.afterPrefix?_eq_some_iff.mpr heq.symm] at hnone
  cases hnone

/-- Records are configured by other options than the member's own. -/
theorem readInstanceConfig_eq (hsame : SameEffect left right) (scopeName : String)
    (flavor : DataCenterFlavor) :
    Action.readInstanceConfig flavor
        ((instanceProperties scopeName left.values).scope scopeName) =
      Action.readInstanceConfig flavor
        ((instanceProperties scopeName right.values).scope scopeName) := by
  have hunread : ∀ suffix ∈ InstanceConfig.suffixes, ∀ own ∈ ofMember, suffix ≠ own.key := by
    decide
  apply Action.readInstanceConfig_scope_congr
  · rfl
  · exact fun suffix hmem => hsame.get?_scope scopeName (hunread suffix hmem)
  · exact hsame.below_scope scopeName (by decide)
  · exact hsame.get?_scope scopeName (by decide)

/-- So are clients. -/
theorem clientSettings_eq (hsame : SameEffect left right) (scopeName : String) :
    ClientSettings.ofProperties scopeName (instanceProperties scopeName left.values) =
      ClientSettings.ofProperties scopeName (instanceProperties scopeName right.values) := by
  have hunread : ∀ suffix ∈ ClientSettings.suffixes, ∀ own ∈ ofMember, suffix ≠ own.key := by
    decide
  apply ClientSettings.ofScope_congr
  · rfl
  · exact fun suffix hmem => hsame.get?_scope scopeName (hunread suffix hmem)
  · exact hsame.below_scope scopeName (by decide)

end SameEffect

end OptionLookup

namespace ConfigSource

variable {scopeName : String} {left right : ConfigSource}

/-- Sources from which the parts of a member are made in the same way. -/
structure SameUse (scopeName : String) (left right : ConfigSource) : Prop where
  config : ∀ plan : MemberPlan,
    plan.makeConfig scopeName left = plan.makeConfig scopeName right
  settings : ∀ registers,
    left.clientSettings scopeName registers = right.clientSettings scopeName registers

theorem SameUse.refl (source : ConfigSource) : SameUse scopeName source source where
  config _ := rfl
  settings _ := rfl

theorem SameUse.makeParts (hsame : SameUse scopeName left right) (plan : MemberPlan)
    (factory : TransportFactory) (policy : StatusPolicy) (manager : Option Nat) :
    plan.makeParts factory scopeName policy left manager =
      plan.makeParts factory scopeName policy right manager := by
  unfold MemberPlan.makeParts MemberPlan.makeManager MemberPlan.makeClient
  rw [hsame.config, hsame.settings]

/-- As a source of the configuration, options that are the same in effect are the same. -/
theorem sameUse_ofOptions {lookup other : OptionLookup} (hsame : lookup.SameEffect other)
    (scopeName : String) :
    Alike (SameUse scopeName) (ofOptions scopeName lookup) (ofOptions scopeName other) := by
  have hdataCenter : lookup.text .dataCenter "" = other.text .dataCenter "" := by
    rw [OptionLookup.text, OptionLookup.text, hsame.get_eq _ (by decide)]
  have hname : lookup.text .name InstanceConfig.defaultAppName =
      other.text .name InstanceConfig.defaultAppName := by
    rw [OptionLookup.text, OptionLookup.text, hsame.get_eq _ (by decide)]
  obtain ⟨flavor, hflavor⟩ := @OptionLookup.exists_text other .dataCenter rfl ""
  obtain ⟨appName, happName⟩ :=
    @OptionLookup.exists_text other .name rfl InstanceConfig.defaultAppName
  unfold ofOptions
  rw [hdataCenter, hname, hflavor, happName]
  refine .ok ⟨?_, ?_⟩
  · intro plan
    unfold MemberPlan.makeConfig
    dsimp only [forRecord]
    rw [hsame.readInstanceConfig_eq]
  · intro registers
    dsimp only [clientSettings]
    rw [ofProperties_clientProperties, ofProperties_clientProperties,
      hsame.clientSettings_eq]

end ConfigSource

namespace MemberPlan

/-- The same plan with other options. -/
def withLookup (plan : MemberPlan) (lookup : OptionLookup) : MemberPlan :=
  { plan with options := lookup.values, environment := some lookup.environment }

variable {plan : MemberPlan} {factory : TransportFactory} {before : Deployment}
  {error : DiscoveryError}

theorem exec_assemble_of_read_eq_error
    (hread : MemberOptions.read (plan.lookup before) = .error error) :
    (plan.assemble factory).exec before = (.error error, before) := by
  unfold assemble
  rw [Action.exec_bind, Action.exec_get]
  dsimp only
  rw [lookup] at hread
  rw [hread]
  rfl

/-- Where the options cannot be read, a given client is let go of that nobody else holds, and
nothing else is done. -/
theorem exec_buildWith_of_read_eq_error
    (hread : MemberOptions.read (plan.lookup before) = .error error) :
    (plan.buildWith factory).exec before = (.error error, (plan.discard.exec before).2) := by
  rw [exec_buildWith_eq, exec_assemble_of_read_eq_error hread]

theorem loadSource_withLookup {other : OptionLookup}
    (hsame : (plan.lookup before).SameEffect other) (options : MemberOptions) :
    Alike (ConfigSource.SameUse options.scopeName)
      (plan.loadSource (plan.lookup before) options before)
      ((plan.withLookup other).loadSource other options before) := by
  unfold loadSource
  split
  · exact Alike.refl ConfigSource.SameUse.refl _
  · exact ConfigSource.sameUse_ofOptions hsame options.scopeName

theorem exec_assemble_withLookup {other : OptionLookup}
    (hsame : (plan.lookup before).SameEffect other) :
    ((plan.withLookup other).assemble factory).exec before =
      (plan.assemble factory).exec before := by
  unfold assemble
  rw [Action.exec_bind, Action.exec_get, Action.exec_bind, Action.exec_get]
  dsimp only
  have hread : MemberOptions.read ((plan.withLookup other).lookup before) =
      MemberOptions.read (plan.lookup before) := hsame.read_eq.symm
  have hpolicy : (plan.withLookup other).choosePolicy = plan.choosePolicy := rfl
  have hgiven : (plan.withLookup other).givenManager before = plan.givenManager before := rfl
  have hclient : (plan.withLookup other).client = plan.client := rfl
  rw [lookup, lookup] at hread
  rw [hread, hpolicy, hgiven, hclient]
  cases MemberOptions.read ⟨plan.options, plan.environment.getD before.environment⟩ with
  | error error => rfl
  | ok options =>
      dsimp only
      cases plan.choosePolicy options with
      | error error => rfl
      | ok policy =>
          have hsource := loadSource_withLookup hsame options
          rw [lookup] at hsource
          dsimp only
          split
          · rfl
          · have hlookup : (⟨(plan.withLookup other).options,
                (plan.withLookup other).environment.getD before.environment⟩ : OptionLookup) =
                  other := rfl
            rw [hlookup]
            generalize plan.loadSource _ options before = source at hsource ⊢
            generalize (plan.withLookup other).loadSource other options before = changed
              at hsource ⊢
            cases hsource with
            | error error => rfl
            | ok hsame =>
                have hparts : (plan.withLookup other).makeParts = plan.makeParts := rfl
                dsimp only
                rw [hparts, hsame.makeParts]
                rfl

/-- What becomes of a plan depends on the values that count. -/
theorem exec_buildWith_withLookup {other : OptionLookup}
    (hsame : (plan.lookup before).SameEffect other) :
    ((plan.withLookup other).buildWith factory).exec before =
      (plan.buildWith factory).exec before := by
  have hdiscard : (plan.withLookup other).discard = plan.discard := rfl
  rw [exec_buildWith_eq, exec_buildWith_eq, exec_assemble_withLookup hsame, hdiscard]

/-- A member is built from the values of its options that count. Building fails at the first of the
boolean options for which a value counts that does not say yes or no, and never because of a value
that does not count; the default is used only if no value counts. -/
theorem built_from_effective (plan : MemberPlan) (factory : TransportFactory)
    (before : Deployment) :
    (∀ options, MemberOptions.read (plan.lookup before) = .ok options ↔
      options.ReadFrom (plan.lookup before)) ∧
    ((∃ options, MemberOptions.ReadFrom options (plan.lookup before)) ↔
      ∀ definition ∈ OptionDefinition.flagsOfMember, ∀ error,
        ¬ (plan.lookup before).Refuses definition error) ∧
    (∀ error, FirstRefusal (plan.lookup before).Refuses OptionDefinition.flagsOfMember error →
      (plan.buildWith factory).exec before = (.error error, (plan.discard.exec before).2)) ∧
    (∀ member after, (plan.buildWith factory).exec before = (.ok member, after) →
      ∃ options policy, options.ReadFrom (plan.lookup before) ∧
        plan.choosePolicy options = .ok policy ∧
        member = plan.member options policy member.client member.manager) ∧
    ∀ other, (plan.lookup before).SameEffect other →
      ((plan.withLookup other).buildWith factory).exec before =
        (plan.buildWith factory).exec before := by
  have hchecks := MemberOptions.read_failsFirst (plan.lookup before)
  refine ⟨fun options => MemberOptions.read_eq_ok_iff, ?_, ?_, ?_, ?_⟩
  · rw [← hchecks.exists_ok_iff]
    simp only [MemberOptions.read_eq_ok_iff]
  · intro error hrefused
    exact exec_buildWith_of_read_eq_error ((hchecks error).mpr hrefused)
  · intro member after hbuild
    have houtcome := exec_buildWith plan factory before
    rw [hbuild] at houtcome
    cases houtcome with
    | given options policy client manager hoptions hpolicy =>
        exact ⟨options, policy, MemberOptions.read_eq_ok_iff.mp hoptions, hpolicy, rfl⟩
    | connected options policy source settings client manager ready _ hoptions hpolicy =>
        exact ⟨options, policy, MemberOptions.read_eq_ok_iff.mp hoptions, hpolicy, rfl⟩
  · exact fun other hsame => exec_buildWith_withLookup hsame

/-- Variables for two options, and with them maybe one that is overridden and one that is blank. -/
def sampleEnvironment (overridden blank : Option String) : Environment := fun name =>
  if name = "HAZELCAST_EUREKAONE_SELF_REGISTRATION" then overridden
  else if name = "hazelcast.eurekaone.namespace" then blank
  else if name = "hazelcast.eurekaone.self-registration" then some "False"
  else if name = "HAZELCAST_EUREKAONE_NAMESPACE" then some "products"
  else none

/-- A plan with values that do not count, among them some that could not be used. -/
def sampleOverridden : MemberPlan :=
  { sample with
    options := Table.ofList [("use-metadata-for-host-and-port", .flag true),
      ("self-registration", .int 7), ("namespace", .flag true)]
    environment := some (sampleEnvironment (some "maybe") (some " "))
    resource := some (Table.ofList
      [("products.name", "app"), ("products.serviceUrl.default", "memory://registry")]) }

/-- The values of the plan that count. -/
def sampleEffective : OptionLookup :=
  ⟨(sampleOverridden.options.erase "self-registration").erase "namespace",
    sampleEnvironment none none⟩

/-- A plan with two values that count and cannot be used. -/
def sampleUnusable : MemberPlan :=
  { sample with
    options := Table.ofList [("use-metadata-for-host-and-port", .flag true),
      ("skip-eureka-registration-verification", .int 1)]
    environment := some fun name =>
      if name = "HAZELCAST_EUREKAONE_USE_METADATA_FOR_HOST_AND_PORT" then some "yes" else none }

/-- Makes transports to the registry of the process. -/
def sampleTransports : TransportFactory :=
  (TransportKind.memory 0).connect

theorem sample_sameEffect : (sampleOverridden.lookup sampleStart).SameEffect sampleEffective where
  effective := by
    have hraw : ∀ definition ∈ OptionDefinition.ofMember,
        (sampleOverridden.lookup sampleStart).raw? definition.key =
          sampleEffective.raw? definition.key := by decide +kernel
    intro definition hmem
    exact ⟨_, OptionLookup.effective_iff.mpr (hraw definition hmem),
      OptionLookup.effective_iff.mpr rfl⟩
  values := by
    intro key hother
    rw [sampleEffective, Table.get?_erase, if_neg, Table.get?_erase, if_neg]
    · rfl
    · exact hother .selfRegistration (by decide)
    · exact hother .scopeName (by decide)
  environment := by
    intro name hother
    have hoverridden : name ≠ "HAZELCAST_EUREKAONE_SELF_REGISTRATION" :=
      (hother .selfRegistration (by decide)).2
    have hblank : name ≠ "hazelcast.eurekaone.namespace" := (hother .scopeName (by decide)).1
    change sampleEnvironment _ _ name = sampleEnvironment _ _ name
    simp only [sampleEnvironment, if_neg hoverridden, if_neg hblank]

/-- What does not count is left alone, and of two values that cannot be used the first is named. -/
theorem sample_built_from_effective :
    (sampleOverridden.lookup sampleStart).SameEffect sampleEffective ∧
    (∃ member after, (sampleOverridden.buildWith sampleTransports).exec sampleStart =
        (.ok member, after) ∧
      ((sampleOverridden.withLookup sampleEffective).buildWith sampleTransports).exec sampleStart =
        (.ok member, after) ∧
      ∃ options policy, options.ReadFrom (sampleOverridden.lookup sampleStart) ∧
        sampleOverridden.choosePolicy options = .ok policy ∧
        member = sampleOverridden.member options policy member.client member.manager) ∧
    FirstRefusal (sampleUnusable.lookup sampleStart).Refuses OptionDefinition.flagsOfMember
      (.invalidProperty "use-metadata-for-host-and-port" "yes") ∧
    (sampleUnusable.buildWith sampleTransports).exec sampleStart =
      (.error (.invalidProperty "use-metadata-for-host-and-port" "yes"), sampleStart) := by
  have hbuilds : ((sampleOverridden.buildWith sampleTransports).exec sampleStart).1.toBool =
      true := by decide +kernel
  have hrefused : FirstRefusal (sampleUnusable.lookup sampleStart).Refuses
      OptionDefinition.flagsOfMember
      (.invalidProperty "use-metadata-for-host-and-port" "yes") := by
    rw [← MemberOptions.read_failsFirst]
    decide +kernel
  obtain ⟨-, -, -, hmember, heffect⟩ :=
    built_from_effective sampleOverridden sampleTransports sampleStart
  obtain ⟨-, -, hunusable, -, -⟩ := built_from_effective sampleUnusable sampleTransports sampleStart
  refine ⟨sample_sameEffect, ?_, hrefused, hunusable _ hrefused⟩
  rw [heffect _ sample_sameEffect]
  cases hresult : (sampleOverridden.buildWith sampleTransports).exec sampleStart with
  | mk answer after =>
      rw [hresult] at hbuilds
      cases answer with
      | error error => cases hbuilds
      | ok member => exact ⟨member, after, rfl, rfl, hmember member after hresult⟩

end MemberPlan

end MemberDiscovery
