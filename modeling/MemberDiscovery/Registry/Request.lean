import MemberDiscovery.Application

/-! # Requests to a registry

The four requests that a client makes, each with the kind of its answer.
-/

namespace MemberDiscovery

/-- The answer to a heartbeat. -/
inductive Heartbeat where
  | renewed
  | notFound
  deriving DecidableEq, Repr, Inhabited

/-- A request, indexed by the kind of its answer. -/
inductive Request : Type → Type where
  | register (record : Instance) : Request Unit
  | cancel (app id : String) : Request Unit
  | heartbeat (record : Instance) : Request Heartbeat
  | lookup (app : String) : Request (Option Application)

/-- What is noted of an accepted request. -/
inductive Operation where
  | register (app id : String) (status : InstanceStatus)
  | cancel (app id : String)
  | heartbeat (app id : String)
  | lookup (app : String)
  deriving DecidableEq, Repr, Inhabited

/-- What is noted of a request. A lookup is noted under the name in upper case, by which
applications are found. -/
def Request.operation {α : Type} : Request α → Operation
  | .register record => .register record.app record.id record.status
  | .cancel app id => .cancel app id
  | .heartbeat record => .heartbeat record.app record.id
  | .lookup app => .lookup (Text.upper app)

end MemberDiscovery
