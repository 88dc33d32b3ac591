import MemberDiscovery.Client.Settings
import MemberDiscovery.Proofs.Config.Checks
import MemberDiscovery.Proofs.Config.Scopes
import MemberDiscovery.Proofs.Json.Spellings

/-! # Which properties make client settings

Six properties of a scope are checked: the port of the proxy, if there is a proxy, three switches
and two timeouts. The settings are read if and only if each of them is absent or spells a value of
its kind, and then they hold these values, or the defaults, and the servers of all zones for which
any are listed (`ClientSettings.ReadFrom`). Otherwise the first that does not is reported.
-/

namespace MemberDiscovery

/-! ## Lists between commas -/

namespace Text

/-- The items of a list: what stands between the commas, without the blanks around it and without
blank items. -/
def Items (text : String) (items : List String) : Prop :=
  ∃ parts : List String, parts ≠ [] ∧ (∀ part ∈ parts, ',' ∉ part.toList) ∧
    text = String.intercalate "," parts ∧ items = (parts.map trim).filter (· ≠ "")

theorem splitWhere_eq_splitOnP (p : Char → Bool) (chars : List Char) :
    splitWhere p chars = chars.splitOnP p := by
  induction chars with
  | nil => rfl
  | cons c rest ih =>
      rw [splitWhere, List.splitOnP_cons_eq_if_modifyHead, ih]
      split
      · rfl
      · cases hparts : rest.splitOnP p with
        | nil => exact absurd hparts (List.splitOnP_ne_nil p rest)
        | cons part parts => rfl

theorem splitAtChar_eq_splitOn (mark : Char) (text : String) :
    splitAtChar mark text = (text.toList.splitOn mark).map String.ofList := by
  rw [splitAtChar, splitWhere_eq_splitOnP]
  rfl

/-- A text is split into what it is joined of. -/
theorem splitAtChar_eq_iff {mark : Char} {text : String} {parts : List String} :
    splitAtChar mark text = parts ↔ parts ≠ [] ∧ (∀ part ∈ parts, mark ∉ part.toList) ∧
      text = String.intercalate (String.singleton mark) parts := by
  rw [splitAtChar_eq_splitOn]
  constructor
  · rintro rfl
    refine ⟨?_, ?_, ?_⟩
    · simp [List.splitOn, List.splitOnP_ne_nil]
    · intro part hpart
      obtain ⟨chars, hchars, rfl⟩ := List.mem_map.mp hpart
      rw [List.splitOn, ← splitWhere_eq_splitOnP] at hchars
      rw [String.toList_ofList]
      intro hmark
      simpa using not_of_mem_splitWhere hchars hmark
    · rw [← String.toList_inj, String.toList_intercalate, List.map_map]
      simp [Function.comp_def, List.intercalate_splitOn]
  · rintro ⟨hne, hmark, rfl⟩
    rw [String.toList_intercalate, String.toList_singleton, List.splitOn_intercalate]
    · simp [Function.comp_def]
    · simpa using hmark
    · simpa using hne

theorem items_iff {text : String} {items : List String} :
    Items text items ↔ ClientSettings.splitUrls text = items := by
  constructor
  · rintro ⟨parts, hne, hcomma, htext, rfl⟩
    rw [ClientSettings.splitUrls, splitAtChar_eq_iff.mpr ⟨hne, hcomma, htext⟩]
  · rintro rfl
    obtain ⟨hne, hcomma, htext⟩ := splitAtChar_eq_iff.mp (Eq.refl (splitAtChar ',' text))
    exact ⟨_, hne, hcomma, htext, rfl⟩

end Text

namespace Scope

variable {α : Type} {scope : Scope} {suffix word : String}

/-- A property of a scope without the blanks around it. A blank property counts as absent. -/
inductive Given (scope : Scope) (suffix : String) : Option String → Prop where
  | present {text word : String} (htext : scope.properties.get? (scope.key suffix) = some text)
      (hpadded : Text.Padded word text) (htrimmed : Text.Trimmed word) (hfilled : word ≠ "") :
      Given scope suffix (some word)
  | absent (hblank : ∀ text, scope.properties.get? (scope.key suffix) = some text →
      Text.isBlankText text = true) : Given scope suffix none

theorem given_iff {value : Option String} :
    scope.Given suffix value ↔ scope.get? suffix = value := by
  unfold get?
  constructor
  · intro hgiven
    cases hgiven with
    | present htext hpadded htrimmed hfilled =>
        rw [htext, Option.map_some, Text.trim_eq_iff.mpr ⟨hpadded, htrimmed⟩, Option.filter_some,
          if_pos (by simpa using hfilled)]
    | absent hblank =>
        rw [Option.filter_eq_none_iff]
        intro word hword
        obtain ⟨text, htext, rfl⟩ := Option.map_eq_some_iff.mp hword
        simpa [Text.trim_eq_empty_iff] using hblank text htext
  · rintro rfl
    cases hvalue : ((scope.properties.get? (scope.key suffix)).map Text.trim).filter (· ≠ "") with
    | some word =>
        obtain ⟨htrim, hfilled⟩ := Option.filter_eq_some_iff.mp hvalue
        obtain ⟨text, htext, htrim⟩ := Option.map_eq_some_iff.mp htrim
        obtain ⟨hpadded, htrimmed⟩ := Text.trim_eq_iff.mp htrim
        exact .present htext hpadded htrimmed (by simpa using hfilled)
    | none =>
        refine .absent fun text htext => ?_
        rw [htext, Option.map_some, Option.filter_eq_none_iff] at hvalue
        rw [← Text.trim_eq_empty_iff]
        simpa using hvalue

theorem read_eq_readOptional (scope : Scope) (suffix : String) (default : α)
    (parse? : String → Option α) :
    scope.read suffix default parse? = readOptional (scope.get? suffix) default parse?
      fun word => .invalidProperty (scope.key suffix) word := by
  unfold read readOptional
  cases scope.get? suffix with
  | none => rfl
  | some word =>
      dsimp only
      cases parse? word with
      | none => rfl
      | some result => rfl

/-! ## Numbers within bounds -/

/-- A number of 32 bits within bounds, as a value of another kind. -/
def narrowed? (Within : Int32 → Prop) [DecidablePred Within] (convert : Int32 → α)
    (word : String) : Option α :=
  (Integer.readInt32? word).bind fun n => if Within n then some (convert n) else none

/-- A number out of bounds is shown in its usual spelling, anything else as it stands. -/
def shownNumber (word : String) : String :=
  ((Integer.readInt32? word).map fun n => Integer.render n.toInt).getD word

section Narrowed

variable {Within : Int32 → Prop} [DecidablePred Within] {convert : Int32 → α}

theorem narrowed?_eq_some_iff {value : α} :
    narrowed? Within convert word = some value ↔
      ∃ n : Int32, Integer.Spells n.toInt word.toList ∧ Within n ∧ convert n = value := by
  simp only [narrowed?, Option.bind_eq_some_iff, Integer.readInt32?_eq_some_iff,
    Option.ite_none_right_eq_some, Option.some.injEq]

/-- Two steps, the reading of a number and the test of its bounds, are one reading. -/
theorem int32_bind_eq_readOptional {default : Int32} (hdefault : Within default) :
    (do
      let n ← scope.int32 suffix default
      if Within n then return convert n
      else throw (.invalidProperty (scope.key suffix) (Integer.render n.toInt))) =
      readOptional (scope.get? suffix) (convert default) (narrowed? Within convert)
        fun word => .invalidProperty (scope.key suffix) (shownNumber word) := by
  unfold int32 read readOptional narrowed? shownNumber
  cases scope.get? suffix with
  | none => exact if_pos hdefault
  | some word =>
      dsimp only
      cases Integer.readInt32? word with
      | none => rfl
      | some n =>
          change (if Within n then _ else _) = _
          by_cases hwithin : Within n
          · simp only [if_pos hwithin, Option.bind_some]
            rfl
          · simp only [if_neg hwithin, Option.bind_some]
            rfl

end Narrowed

end Scope

namespace ClientSettings

variable {scope : Scope} {suffix : String} {error : ClientError}

/-! ## Kinds of values -/

/-- A decimal spelling of a number of 16 bits. -/
def SpellsPort (word : String) (port : UInt16) : Prop :=
  Integer.Spells port.toNat word.toList

/-- A decimal spelling of a number of 32 bits that is not negative. -/
def SpellsSeconds (word : String) (seconds : Nat) : Prop :=
  (seconds : Int) ≤ Integer.maxInt32 ∧ Integer.Spells seconds word.toList

def port? : String → Option UInt16 :=
  Scope.narrowed? (fun n : Int32 => 0 ≤ n ∧ n ≤ 65535) fun n => UInt16.ofNat n.toInt.toNat

def seconds? : String → Option Nat :=
  Scope.narrowed? (fun n : Int32 => 0 ≤ n) fun n => n.toInt.toNat

theorem proxyPort_eq_readOptional (scope : Scope) :
    proxyPort scope = readOptional (scope.get? "eurekaServer.proxyPort") 80 port? fun word =>
      .invalidProperty (scope.key "eurekaServer.proxyPort") (Scope.shownNumber word) :=
  Scope.int32_bind_eq_readOptional (by decide)

theorem timeout_eq_readOptional (scope : Scope) (suffix : String) {default : Nat}
    (hdefault : 0 ≤ Int32.ofNat default ∧ (Int32.ofNat default).toInt.toNat = default) :
    timeout scope suffix default = readOptional (scope.get? suffix) default seconds? fun word =>
      .invalidProperty (scope.key suffix) (Scope.shownNumber word) := by
  have hread := @Scope.int32_bind_eq_readOptional Nat scope suffix (fun n : Int32 => 0 ≤ n) _
    (fun n => n.toInt.toNat) (Int32.ofNat default) hdefault.1
  rw [hdefault.2] at hread
  exact hread

theorem port?_eq_some_iff {word : String} {port : UInt16} :
    port? word = some port ↔ SpellsPort word port := by
  have hbounds : (0 : Int32).toInt = 0 ∧ (65535 : Int32).toInt = 65535 := by decide
  simp only [port?, Scope.narrowed?_eq_some_iff, Int32.le_iff_toInt_le, hbounds]
  constructor
  · rintro ⟨n, hspells, ⟨hlower, hupper⟩, rfl⟩
    have hport : (UInt16.ofNat n.toInt.toNat).toNat = n.toInt.toNat := by
      rw [UInt16.toNat_ofNat']
      omega
    rwa [SpellsPort, hport, Int.toNat_of_nonneg hlower]
  · intro hspells
    have hupper := port.toNat_lt
    have hn : (Int32.ofInt port.toNat).toInt = port.toNat :=
      Int32.toInt_ofInt_of_le (by omega) (by omega)
    refine ⟨Int32.ofInt port.toNat, ?_, ?_, ?_⟩
    · rwa [hn]
    · omega
    · rw [hn, Int.toNat_natCast, UInt16.ofNat_toNat]

theorem seconds?_eq_some_iff {word : String} {seconds : Nat} :
    seconds? word = some seconds ↔ SpellsSeconds word seconds := by
  have hzero : (0 : Int32).toInt = 0 := by decide
  simp only [seconds?, Scope.narrowed?_eq_some_iff, Int32.le_iff_toInt_le, hzero]
  constructor
  · rintro ⟨n, hspells, hlower, rfl⟩
    rw [SpellsSeconds, Int.toNat_of_nonneg hlower]
    exact ⟨n.toInt_le, hspells⟩
  · rintro ⟨hupper, hspells⟩
    unfold Integer.maxInt32 at hupper
    have hn : (Int32.ofInt seconds).toInt = seconds :=
      Int32.toInt_ofInt_of_le (by omega) (by omega)
    refine ⟨Int32.ofInt seconds, ?_, ?_, ?_⟩
    · rwa [hn]
    · omega
    · rw [hn, Int.toNat_natCast]

/-! ## The checks -/

/-- A property that is checked. -/
structure Check where
  suffix : String
  /-- Whether the property is read at all. -/
  Applies : Scope → Prop
  /-- The words that are values of the property. -/
  Accepts : String → Prop
  /-- How another word is shown. -/
  shown : String → String

namespace Check

def flag (suffix : String) : Check where
  suffix
  Applies _ := True
  Accepts word := ∃ value, Scope.SpellsFlag word value
  shown := id

def seconds (suffix : String) : Check where
  suffix
  Applies _ := True
  Accepts word := ∃ value, SpellsSeconds word value
  shown := Scope.shownNumber

/-- Without a proxy there may be anything in place of its port. -/
def proxyPort : Check where
  suffix := "eurekaServer.proxyPort"
  Applies scope := ∃ host, scope.Given "eurekaServer.proxyHost" (some host)
  Accepts word := ∃ value, SpellsPort word value
  shown := Scope.shownNumber

/-- The checks in their order. -/
def all : List Check :=
  [proxyPort, flag "registration.enabled", flag "shouldFetchRegistry", flag "preferSameZone",
    seconds "eurekaServer.readTimeout", seconds "eurekaServer.connectTimeout"]

/-- The property is not read, or absent, or a value of its kind. -/
def Passes (scope : Scope) (check : Check) : Prop :=
  check.Applies scope → ∀ word, scope.Given check.suffix (some word) → check.Accepts word

def Refuses (scope : Scope) (check : Check) (error : ClientError) : Prop :=
  check.Applies scope ∧ ∃ word, scope.Given check.suffix (some word) ∧ ¬ check.Accepts word ∧
    error = .invalidProperty (scope.key check.suffix) (check.shown word)

theorem passes_iff {check : Check} : check.Passes scope ↔ ∀ error, ¬ check.Refuses scope error := by
  constructor
  · rintro hpasses error ⟨happlies, word, hword, haccepts, -⟩
    exact haccepts (hpasses happlies word hword)
  · intro hnone happlies word hword
    by_contra haccepts
    exact hnone _ ⟨happlies, word, hword, haccepts, rfl⟩

end Check

/-! ## The settings -/

/-- The proxy of a scope, if a host is given for it. -/
inductive HasProxy (scope : Scope) : Option ProxySettings → Prop where
  | direct (hhost : scope.Given "eurekaServer.proxyHost" none) : HasProxy scope none
  | proxy {settings : ProxySettings}
      (hhost : scope.Given "eurekaServer.proxyHost" (some settings.host))
      (hport : ReadsAs (scope.Given "eurekaServer.proxyPort") 80 SpellsPort settings.port)
      (huserName : scope.Given "eurekaServer.proxyUserName" settings.userName)
      (hpassword : scope.Given "eurekaServer.proxyPassword" settings.password) :
      HasProxy scope (some settings)

/-- Settings hold what a scope gives, and the defaults in place of what it does not give. -/
structure ReadFrom (settings : ClientSettings) (scope : Scope) : Prop where
  scopeName : settings.scopeName = scope.name
  /-- The zones are those for which any server is listed. -/
  serviceUrls : ∀ zone urls, settings.serviceUrls.get? zone = some urls ↔ urls ≠ [] ∧
    ∃ text, scope.properties.get? (scope.key "serviceUrl" ++ "." ++ zone) = some text ∧
      Text.Items text urls
  zone : scope.Given "zone" settings.zone
  registers : ReadsAs (scope.Given "registration.enabled") true Scope.SpellsFlag settings.registers
  fetches : ReadsAs (scope.Given "shouldFetchRegistry") true Scope.SpellsFlag settings.fetches
  prefersZone : ReadsAs (scope.Given "preferSameZone") true Scope.SpellsFlag settings.prefersZone
  readTimeout :
    ReadsAs (scope.Given "eurekaServer.readTimeout") 8 SpellsSeconds settings.readTimeout
  connectTimeout :
    ReadsAs (scope.Given "eurekaServer.connectTimeout") 5 SpellsSeconds settings.connectTimeout
  proxy : HasProxy scope settings.proxy

theorem get?_zoneUrls {zone : String} {urls : List String} :
    (zoneUrls scope).get? zone = some urls ↔ urls ≠ [] ∧
      ∃ text, scope.properties.get? (scope.key "serviceUrl" ++ "." ++ zone) = some text ∧
        Text.Items text urls := by
  rw [zoneUrls, Table.get?_filter, Table.get?_mapValues, Scope.get?_below]
  simp only [Option.filter_eq_some_iff, Option.map_eq_some_iff, Text.items_iff, Bool.not_eq_true',
    List.isEmpty_eq_false_iff]
  exact and_comm

section Readings

variable {value : Bool}

theorem flag_eq_ok_iff {default : Bool} :
    scope.flag suffix default = .ok value ↔
      ReadsAs (scope.Given suffix) default Scope.SpellsFlag value := by
  rw [Scope.flag, Scope.read_eq_readOptional]
  exact readOptional_eq_ok_iff Scope.given_iff Scope.readFlag?_eq_some_iff

theorem flag_eq_error_iff {default : Bool} :
    scope.flag suffix default = .error error ↔ (Check.flag suffix).Refuses scope error := by
  rw [Scope.flag, Scope.read_eq_readOptional,
    readOptional_eq_error_iff Scope.given_iff Scope.readFlag?_eq_some_iff]
  exact (and_iff_right trivial).symm

variable {default seconds : Nat}
  (hdefault : 0 ≤ Int32.ofNat default ∧ (Int32.ofNat default).toInt.toNat = default)

include hdefault

theorem timeout_eq_ok_iff :
    timeout scope suffix default = .ok seconds ↔
      ReadsAs (scope.Given suffix) default SpellsSeconds seconds := by
  rw [timeout_eq_readOptional scope suffix hdefault]
  exact readOptional_eq_ok_iff Scope.given_iff seconds?_eq_some_iff

theorem timeout_eq_error_iff :
    timeout scope suffix default = .error error ↔ (Check.seconds suffix).Refuses scope error := by
  rw [timeout_eq_readOptional scope suffix hdefault,
    readOptional_eq_error_iff Scope.given_iff seconds?_eq_some_iff]
  exact (and_iff_right trivial).symm

end Readings

theorem proxyPort_eq_ok_iff {port : UInt16} :
    proxyPort scope = .ok port ↔
      ReadsAs (scope.Given "eurekaServer.proxyPort") 80 SpellsPort port := by
  rw [proxyPort_eq_readOptional]
  exact readOptional_eq_ok_iff Scope.given_iff port?_eq_some_iff

theorem proxyPort_eq_error_iff :
    proxyPort scope = .error error ↔
      ∃ word, scope.Given "eurekaServer.proxyPort" (some word) ∧
        (¬ ∃ port, SpellsPort word port) ∧
        error = .invalidProperty (scope.key "eurekaServer.proxyPort") (Scope.shownNumber word) := by
  rw [proxyPort_eq_readOptional]
  exact readOptional_eq_error_iff Scope.given_iff port?_eq_some_iff

theorem proxySettings_eq_ok_iff {proxy : Option ProxySettings} :
    proxySettings scope = .ok proxy ↔ HasProxy scope proxy := by
  unfold proxySettings
  constructor
  · intro hproxy
    split at hproxy
    next hhost =>
      obtain rfl := Except.ok.inj hproxy
      exact .direct (Scope.given_iff.mpr hhost)
    next host hhost =>
      obtain ⟨port, hport, hproxy⟩ := bind_eq_ok_iff.mp hproxy
      obtain rfl := Except.ok.inj hproxy
      exact .proxy (Scope.given_iff.mpr hhost) (proxyPort_eq_ok_iff.mp hport)
        (Scope.given_iff.mpr rfl) (Scope.given_iff.mpr rfl)
  · intro hproxy
    cases hproxy with
    | direct hhost => rw [Scope.given_iff.mp hhost]
    | proxy hhost hport huserName hpassword =>
        rw [Scope.given_iff.mp hhost, Scope.given_iff.mp huserName, Scope.given_iff.mp hpassword,
          proxyPort_eq_ok_iff.mpr hport]
        rfl

theorem proxySettings_eq_error_iff :
    proxySettings scope = .error error ↔ Check.proxyPort.Refuses scope error := by
  unfold proxySettings
  constructor
  · intro hproxy
    split at hproxy
    next => cases hproxy
    next host hhost =>
      refine ⟨⟨host, Scope.given_iff.mpr hhost⟩, proxyPort_eq_error_iff.mp ?_⟩
      cases hread : proxyPort scope with
      | error other =>
          rw [hread] at hproxy
          cases hproxy
          rfl
      | ok port =>
          rw [hread] at hproxy
          cases hproxy
  · rintro ⟨⟨host, hhost⟩, hrefused⟩
    rw [Scope.given_iff.mp hhost, proxyPort_eq_error_iff.mpr hrefused]
    rfl

theorem ofScope_eq_ok_iff {settings : ClientSettings} :
    ofScope scope = .ok settings ↔ settings.ReadFrom scope := by
  unfold ofScope
  simp only [bind_eq_ok_iff, flag_eq_ok_iff, proxySettings_eq_ok_iff]
  constructor
  · rintro ⟨proxy, hproxy, registers, hregisters, fetches, hfetches, prefersZone, hprefersZone,
      readTimeout, hreadTimeout, connectTimeout, hconnectTimeout, hread⟩
    obtain rfl := Except.ok.inj hread
    exact {
      scopeName := rfl
      serviceUrls := fun zone urls => get?_zoneUrls
      zone := Scope.given_iff.mpr rfl
      registers := hregisters
      fetches := hfetches
      prefersZone := hprefersZone
      readTimeout := (timeout_eq_ok_iff (by decide)).mp hreadTimeout
      connectTimeout := (timeout_eq_ok_iff (by decide)).mp hconnectTimeout
      proxy := hproxy }
  · intro hread
    have hservers : zoneUrls scope = settings.serviceUrls := by
      apply Table.ext_get?
      intro zone
      ext urls
      rw [get?_zoneUrls, hread.serviceUrls]
    refine ⟨_, hread.proxy, _, hread.registers, _, hread.fetches, _, hread.prefersZone,
      _, (timeout_eq_ok_iff (by decide)).mpr hread.readTimeout,
      _, (timeout_eq_ok_iff (by decide)).mpr hread.connectTimeout, ?_⟩
    rw [hservers, ← hread.scopeName, Scope.given_iff.mp hread.zone]
    rfl

theorem ofScope_failsFirst (scope : Scope) :
    FailsFirst (Check.Refuses scope) Check.all (ofScope scope) := by
  unfold ofScope
  refine .bind (fun error => proxySettings_eq_error_iff) fun _ _ => ?_
  refine .bind (fun error => flag_eq_error_iff) fun _ _ => ?_
  refine .bind (fun error => flag_eq_error_iff) fun _ _ => ?_
  refine .bind (fun error => flag_eq_error_iff) fun _ _ => ?_
  refine .bind (fun error => timeout_eq_error_iff (by decide)) fun _ _ => ?_
  refine .bind (fun error => timeout_eq_error_iff (by decide)) fun _ _ => ?_
  exact .ok _

/-- The settings of a scope are read if and only if every property that is checked passes. They are
then what the properties say, and otherwise the first property that does not pass is reported. -/
theorem accepted_iff_valid (scopeName : String) (properties : PropertySet) :
    ((∃ settings, ofProperties scopeName properties = .ok settings) ↔
      ∀ check ∈ Check.all, check.Passes (properties.scope scopeName)) ∧
    (∀ settings, ofProperties scopeName properties = .ok settings ↔
      settings.ReadFrom (properties.scope scopeName)) ∧
    ∀ error, ofProperties scopeName properties = .error error ↔
      FirstRefusal (Check.Refuses (properties.scope scopeName)) Check.all error := by
  have hchecks := ofScope_failsFirst (properties.scope scopeName)
  refine ⟨?_, fun settings => ofScope_eq_ok_iff, hchecks⟩
  simp only [Check.passes_iff]
  exact hchecks.exists_ok_iff

/-- The port is checked first if there is a proxy, and it is shown in its usual spelling. -/
example : ofProperties "eureka" (Table.ofList
    [("eureka.eurekaServer.proxyHost", "proxy"), ("eureka.eurekaServer.proxyPort", " +065536 "),
      ("eureka.preferSameZone", "maybe")]) =
    .error (.invalidProperty "eureka.eurekaServer.proxyPort" "65536") := by
  decide +kernel

end ClientSettings

end MemberDiscovery
