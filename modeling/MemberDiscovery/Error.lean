import MemberDiscovery.Text.Quoted

/-! # Errors

`ClientError` lists what can go wrong between a process and its registry, configuration included;
`DiscoveryError` adds what can go wrong in discovery itself. An error is fatal if trying again
cannot help. Errors of a file system, a data format or a network are told apart but carry no text.
-/

namespace MemberDiscovery

/-- Failures of the registry client and of configuration. -/
inductive ClientError where
  | missingResource (name : String) (searched : List String)
  | invalidConfiguration (reason : String)
  | invalidProperty (key : String) (value : String)
  /-- A file could not be read, with what the system says about it. -/
  | unreadable (reason : String)
  | malformedYaml
  | malformedJson
  /-- A request got no usable answer. -/
  | noAnswer
  /-- A server answered with a status that the operation does not accept. -/
  | unexpectedStatus (status : Nat) (url : String)
  | allServersFailed (attempted : Nat) (last : ClientError)
  | noServiceUrls
  | shutDown
  /-- Trying again cannot help. -/
  | fatal (reason : String)
  deriving DecidableEq, Repr, Inhabited

namespace ClientError

/-- Whether trying again cannot help. -/
def isFatal : ClientError → Bool
  | .fatal _ | .noServiceUrls | .invalidConfiguration _ => true
  | .allServersFailed _ last => last.isFatal
  | _ => false

/-- The text of the error; `none` where it would quote a file system, format or network. -/
def message? : ClientError → Option String
  | .missingResource name searched =>
    some ("cannot locate " ++ name ++ " as a configuration resource (searched: "
      ++ Text.quotePaths searched ++ ")")
  | .invalidConfiguration reason => some ("invalid configuration: " ++ reason)
  | .invalidProperty key value => some ("invalid value for property '" ++ key ++ "': " ++ value)
  | .unreadable _ | .malformedYaml | .malformedJson | .noAnswer => none
  | .unexpectedStatus status url =>
    some ("unexpected status " ++ toString status ++ " from " ++ url)
  | .allServersFailed attempted last =>
    last.message?.map fun text =>
      "all " ++ toString attempted ++ " registry servers failed, last error: " ++ text
  | .noServiceUrls => some "no Eureka service URLs configured"
  | .shutDown => some "client has been shut down"
  | .fatal reason => some ("fatal error: " ++ reason)

/-- The text of the error for a log, which names at least the kind of failure. -/
def logText : ClientError → String
  | .unreadable reason => "I/O error: " ++ reason
  | .malformedYaml => "YAML serialization error"
  | .malformedJson => "JSON serialization error"
  | .noAnswer => "HTTP error"
  | .allServersFailed attempted last =>
    "all " ++ toString attempted ++ " registry servers failed, last error: " ++ last.logText
  | error => error.message?.getD ""

end ClientError

/-- Failures of discovery. -/
inductive DiscoveryError where
  | client (error : ClientError)
  | invalidProperty (key : String) (value : String)
  /-- A condition for building does not hold. -/
  | precondition (reason : String)
  deriving DecidableEq, Repr, Inhabited

namespace DiscoveryError

/-- Whether trying again cannot help. -/
def isFatal : DiscoveryError → Bool
  | .client error => error.isFatal
  | _ => true

/-- The text of the error; `none` where it would quote a file system, format or network. -/
def message? : DiscoveryError → Option String
  | .client error => error.message?.map ("Eureka client error: " ++ ·)
  | .invalidProperty key value => some ("invalid value for property '" ++ key ++ "': " ++ value)
  | .precondition reason => some ("precondition failed: " ++ reason)

end DiscoveryError

end MemberDiscovery
