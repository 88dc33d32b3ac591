import MemberDiscovery.Error
import MemberDiscovery.Registry.Request

/-! # A registry in memory

One registry server as a value. Records are stored under their application as it is spelled in the
record, while lookups, cancellations and evictions ask for the name in upper case. Failures can be
scheduled: each is the answer to one request, which then has no other effect. An application without
instances is not kept.
-/

namespace MemberDiscovery

/-- A registry server. -/
structure Registry where
  applications : Table Application
  /-- The accepted requests, oldest first. -/
  operations : List Operation
  /-- Errors for the requests to come, oldest first. -/
  failures : List ClientError
  deriving DecidableEq, Repr, Inhabited

namespace Registry

def empty : Registry := ⟨∅, [], []⟩

def store (record : Instance) (registry : Registry) : Registry :=
  let app := (registry.applications.get? record.app).getD (.new record.app)
  { registry with applications := registry.applications.insert record.app (app.add record) }

/-- Keeps an application, or drops it if it has no instances. -/
def keep (key : String) (app : Application) (registry : Registry) : Registry :=
  if app.instances.isEmpty then
    { registry with applications := registry.applications.erase key }
  else { registry with applications := registry.applications.insert key app }

def evict (app id : String) (registry : Registry) : Option Instance × Registry :=
  let key := Text.upper app
  match registry.applications.get? key with
  | none => (none, registry)
  | some found =>
    let (removed, rest) := found.remove id
    (removed, registry.keep key rest)

def application? (app : String) (registry : Registry) : Option Application :=
  registry.applications.get? (Text.upper app)

def instance? (app id : String) (registry : Registry) : Option Instance :=
  (registry.application? app).bind (·.find? id)

def scheduleFailure (error : ClientError) (registry : Registry) : Registry :=
  { registry with failures := registry.failures ++ [error] }

/-- Whether a record is stored under its application as spelled. -/
def knows (record : Instance) (registry : Registry) : Bool :=
  (registry.applications.get? record.app).any fun app => (app.find? record.id).isSome

/-- The effect and the answer of a request that does not fail. -/
def perform {α : Type} (now : Timestamp) : Request α → Registry → α × Registry
  | .register record, registry =>
    ((), registry.store { record with dirty := false, lastUpdated := now })
  | .cancel app id, registry => ((), (registry.evict app id).2)
  | .heartbeat record, registry => (if registry.knows record then .renewed else .notFound, registry)
  | .lookup app, registry =>
    -- An application without instances is as good as none.
    ((registry.application? app).filter fun found => !found.instances.isEmpty, registry)

/-- Takes a request. A scheduled failure is its answer, and nothing else happens; otherwise it is
noted and performed. -/
def submit {α : Type} (now : Timestamp) (request : Request α) (registry : Registry) :
    Except ClientError α × Registry :=
  match registry.failures with
  | error :: failures => (.error error, { registry with failures })
  | [] =>
    let (answer, registry) := registry.perform now request
    (.ok answer, { registry with operations := registry.operations ++ [request.operation] })

end Registry

end MemberDiscovery
