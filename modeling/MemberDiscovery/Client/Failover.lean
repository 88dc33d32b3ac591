import MemberDiscovery.Error

/-! # Failover

A request goes to the servers in order until one answers. A fatal error ends the search, since the
next server could not help either.
-/

namespace MemberDiscovery

namespace Failover

variable {m : Type → Type} [Monad m] {Server α : Type}

/-- Asks the servers that are left after so many have failed, the last one with an error. -/
def askRest (ask : Server → m (Except ClientError α)) (attempted : Nat)
    (last : Option ClientError) : List Server → m (Except ClientError α)
  | [] =>
    match last with
    | some last => return .error (.allServersFailed attempted last)
    | none => return .error .noServiceUrls
  | server :: servers => do
    match ← ask server with
    | .ok answer => return .ok answer
    | .error error =>
      -- The next server could not help.
      if error.isFatal then return .error error
      else askRest ask (attempted + 1) (some error) servers

end Failover

def failover {m : Type → Type} [Monad m] {Server α : Type}
    (ask : Server → m (Except ClientError α)) (servers : List Server) : m (Except ClientError α) :=
  Failover.askRest ask 0 none servers

end MemberDiscovery
