import MemberDiscovery.Error
import MemberDiscovery.Environment
import MemberDiscovery.Text.Blank
import MemberDiscovery.Json.Document

/-! # Plugin options

A cluster hands its discovery plugin a table of option values. Every option has a kind, and a value
is converted to the kind of its option or refused. The environment overrides the table: an option is
looked up under its dotted name there, then under that name in upper case with underscores, then in
the table. Blank overrides do not count. A default is used only if none of the three has a value.
-/

namespace MemberDiscovery

/-- A value in the table of options. -/
inductive OptionValue where
  | flag (value : Bool)
  | int (value : Int64)
  | text (value : String)
  deriving DecidableEq, Repr, Inhabited

/-- The options that a cluster hands to its plugin. -/
abbrev OptionTable := Table OptionValue

namespace OptionValue

def display : OptionValue → String
  | .flag value => if value then "true" else "false"
  | .int value => Integer.render value.toInt
  | .text value => value

def flag? : OptionValue → Option Bool
  | .flag value => some value
  | .text value =>
    let word := Text.trim value
    if Text.equalsIgnoringCase word "true" then some true
    else if Text.equalsIgnoringCase word "false" then some false
    else none
  | .int _ => none

def int? : OptionValue → Option Int64
  | .int value => some value
  | .text value => Integer.readInt64? (Text.trim value)
  | .flag _ => none

def toJson : OptionValue → Json
  | .flag value => .bool value
  | .int value => .int value.toInt
  | .text value => .string value

/-- Reads a boolean, an integer or a text; nothing else is a value. -/
def ofDocument? : Json.Document → Option OptionValue
  | .bool value => some (.flag value)
  | .number (some (.integer value)) => (Integer.toInt64? value).map .int
  | .string value => value.map .text
  | _ => none

/-- Reads the values of a table. -/
def ofMembers? : List (Option String × Json.Document) → Option (List (String × OptionValue))
  | [] => some []
  | (key, item) :: members => do
    let key ← key
    let value ← ofDocument? item
    let values ← ofMembers? members
    return (key, value) :: values

/-- Reads a table of options; of two entries with one key the last counts. -/
def tableOfDocument? : Json.Document → Option OptionTable
  | .object members => (ofMembers? members).map Table.ofList
  | _ => none

end OptionValue

/-- What an option holds. -/
inductive OptionKind where
  | flag
  | int
  | text
  deriving DecidableEq, Repr, Inhabited

/-- An option that the plugin knows. -/
structure OptionDefinition where
  key : String
  kind : OptionKind
  optional : Bool
  deriving DecidableEq, Repr, Inhabited

namespace OptionDefinition

def convert (definition : OptionDefinition) (value : OptionValue) :
    Except DiscoveryError OptionValue :=
  let converted := match definition.kind with
    | .flag => value.flag?.map .flag
    | .int => value.int?.map .int
    | .text => some (.text value.display)
  match converted with
  | some result => .ok result
  | none => .error (.invalidProperty definition.key value.display)

/-- Whether the client settings come from the shared configuration resource. -/
def useResource : OptionDefinition := ⟨"use-classpath-eureka-client-props", .flag, true⟩

def name : OptionDefinition := ⟨"name", .text, true⟩

/-- The kind of data center, used without the resource. -/
def dataCenter : OptionDefinition := ⟨"datacenter", .text, true⟩

def selfRegistration : OptionDefinition := ⟨"self-registration", .flag, true⟩

/-- The name of the scope of the member's properties. -/
def scopeName : OptionDefinition := ⟨"namespace", .text, true⟩

def useMetadata : OptionDefinition := ⟨"use-metadata-for-host-and-port", .flag, true⟩

/-- Whether starting does not wait for the registration to show. -/
def skipVerification : OptionDefinition := ⟨"skip-eureka-registration-verification", .flag, true⟩

def ofPlugin : List OptionDefinition :=
  [useResource, name, dataCenter, selfRegistration, scopeName, useMetadata, skipVerification]

def ofClient : List OptionDefinition :=
  [⟨"serviceUrl.default", .text, true⟩,
   ⟨"zone", .text, true⟩,
   ⟨"registration.enabled", .flag, true⟩,
   ⟨"shouldFetchRegistry", .flag, true⟩,
   ⟨"preferSameZone", .flag, true⟩,
   ⟨"eurekaServer.readTimeout", .int, true⟩,
   ⟨"eurekaServer.connectTimeout", .int, true⟩,
   ⟨"eurekaServer.proxyHost", .text, true⟩,
   ⟨"eurekaServer.proxyPort", .text, true⟩,
   ⟨"eurekaServer.proxyUserName", .text, true⟩,
   ⟨"eurekaServer.proxyPassword", .text, true⟩]

/-- All options in the order in which the plugin lists them. -/
def all : List OptionDefinition := ofPlugin ++ ofClient

end OptionDefinition

/-- Option values together with what may override them. -/
structure OptionLookup where
  values : OptionTable
  environment : Environment

namespace OptionLookup

def dottedName (key : String) : String :=
  "hazelcast.eurekaone." ++ key

/-- A name in upper case with underscores for points and hyphens. -/
def upperSnake (name : String) : String :=
  String.ofList (name.toList.map fun c => if c = '.' ∨ c = '-' then '_' else c.toUpper)

/-- A variable that is not blank. -/
def environmentValue? (lookup : OptionLookup) (name : String) : Option String :=
  (lookup.environment name).filter fun value => !Text.isBlankText value

def override? (lookup : OptionLookup) (key : String) : Option String :=
  (lookup.environmentValue? (dottedName key)).or
    (lookup.environmentValue? (upperSnake (dottedName key)))

/-- The value of an option before conversion. -/
def raw? (lookup : OptionLookup) (key : String) : Option OptionValue :=
  match lookup.override? key with
  | some value => some (.text value)
  | none => lookup.values.get? key

def get (lookup : OptionLookup) (definition : OptionDefinition) :
    Except DiscoveryError (Option OptionValue) :=
  match lookup.raw? definition.key with
  | some value => (definition.convert value).map some
  | none => .ok none

/-- A boolean option; a value of another kind counts as absent. -/
def flag (lookup : OptionLookup) (definition : OptionDefinition) (default : Bool) :
    Except DiscoveryError Bool :=
  (lookup.get definition).map fun value => (value.bind OptionValue.flag?).getD default

def text (lookup : OptionLookup) (definition : OptionDefinition) (default : String) :
    Except DiscoveryError String :=
  (lookup.get definition).map fun value => (value.map OptionValue.display).getD default

end OptionLookup

end MemberDiscovery
