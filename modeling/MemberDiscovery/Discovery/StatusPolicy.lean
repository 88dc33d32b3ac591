import MemberDiscovery.Deployment.Client
import MemberDiscovery.Discovery.MetadataKeys

/-! # What a member's status means for its registration

A policy decides whether a member registers itself and what becomes of its status.
-/

namespace MemberDiscovery

/-- How a member's status reaches the registry. -/
inductive StatusPolicy where
  | disabled
  /-- As the status of its record. -/
  | forwarding
  /-- As the status of its record, after its address and its group were put into the metadata.
  Without self-registration nothing happens. -/
  | publishing (address : Address) (selfRegistration : Bool) (groupName : String)
  /-- It is noted and goes no further. -/
  | noting (registers : Bool)
  deriving DecidableEq, Repr, Inhabited

namespace StatusPolicy

def registers : StatusPolicy → Bool
  | .disabled => false
  | .forwarding => true
  | .publishing _ selfRegistration _ => selfRegistration
  | .noting registers => registers

/-- The policy that publishes an address. The group needs a name, and the address a host and a port
at which others can reach it. -/
def publish (address : Address) (selfRegistration : Bool) (groupName : String) :
    Except DiscoveryError StatusPolicy :=
  if Text.isBlankText groupName then .error (.precondition "group name must not be empty")
  else if Text.isBlankText address.host ∨ address.port = 0 then
    .error (.precondition ("local address " ++ address.display ++ " cannot be published"))
  else .ok (.publishing address selfRegistration groupName)

def publishedEntries (address : Address) (groupName : String) : List (String × String) :=
  [(MetadataKeys.port, Integer.render address.port.toNat), (MetadataKeys.host, address.host),
   (MetadataKeys.groupName, groupName)]

/-- Applies a status to the record of a manager. -/
def apply (policy : StatusPolicy) (manager : Nat) (status : InstanceStatus) : Action Unit := do
  match policy with
  | .disabled => return
  | .forwarding => Action.setStatus manager status
  | .publishing address selfRegistration groupName =>
    if selfRegistration then
      Action.addMetadata manager (publishedEntries address groupName)
      Action.setStatus manager status
  | .noting _ => modify (·.note (.statusNoted status))

end StatusPolicy

end MemberDiscovery
