import MemberDiscovery.Application
import MemberDiscovery.Discovery.MetadataKeys
import MemberDiscovery.Net.IpAddress
import MemberDiscovery.Text.Blank

/-! # Candidates

How a registry record becomes a candidate for the cluster. In metadata mode only members of the own
group count, and they are where their metadata says; otherwise a member is at the address of its
record. A record that cannot be used is skipped for a reason and does not affect the others.
-/

namespace MemberDiscovery

/-- Finds the IP address of a host, or says why there is none. -/
abbrev HostResolver := String → Except String IpAddress

namespace HostResolver

/-- Takes a host for the IP address that it is written as. -/
def literal (host : String) : Except String IpAddress :=
  match IpAddress.parse? host with
  | some address => .ok address
  | none => .error host

/-- Replaces some hosts before they are taken for IP addresses. -/
def ofTable (hosts : Table String) : HostResolver := fun host =>
  literal ((hosts.get? host).getD host)

end HostResolver

/-- Why a record is skipped. -/
inductive SkipReason where
  | otherGroup
  | noHost
  | unresolved (reason : String)
  | invalidPort (port : Int)
  deriving DecidableEq, Repr

/-- The warning about a skipped record. Other groups are nothing to warn about. -/
def SkipReason.warning? (record : Instance) : SkipReason → Option String
  | .otherGroup => none
  | .noHost => some ("Instance " ++ record.display ++ " publishes no " ++ MetadataKeys.host)
  | .unresolved reason =>
    some ("Address of instance " ++ record.display ++ " could not be resolved: " ++ reason)
  | .invalidPort port =>
    some ("Instance " ++ record.display ++ " has invalid port " ++ Integer.render port)

/-- How a member takes records for candidates. -/
structure CandidateRule where
  usesMetadata : Bool
  groupName : String
  resolver : HostResolver

namespace CandidateRule

/-- The port in the metadata of a record; -1 without one. -/
def publishedPort (record : Instance) : Int :=
  match (record.metadata.get? MetadataKeys.port).bind fun port =>
    Integer.readInt64? (Text.trim port) with
  | some port => port.toInt
  | none => -1

def endpoint (rule : CandidateRule) (record : Instance) : Except SkipReason (String × Int) :=
  if rule.usesMetadata then
    if record.metadata.get? MetadataKeys.groupName ≠ some rule.groupName then .error .otherGroup
    else
      match record.metadata.get? MetadataKeys.host with
      | some host => .ok (host, publishedPort record)
      | none => .error .noHost
  else .ok (record.ipAddress, record.port.number.toInt)

/-- A port that others can connect to. -/
def port? (port : Int) : Option UInt16 :=
  if 0 < port ∧ port ≤ 65535 then some (UInt16.ofNat port.toNat) else none

def candidate (rule : CandidateRule) (record : Instance) : Except SkipReason Node := do
  let (host, port) ← rule.endpoint record
  -- A host that is not resolved is reported even if the port is none, too.
  match rule.resolver host, port? port with
  | .error reason, _ => throw (.unresolved reason)
  | .ok _, none => throw (.invalidPort port)
  | .ok ip, some port =>
    let address : Address := ⟨ip.render, port⟩
    return { privateAddress := address, publicAddress := address, properties := record.metadata }

/-- The records of an application that are up, each with its candidate or the reason against it. -/
def survey (rule : CandidateRule) (app : Application) : List (Instance × Except SkipReason Node) :=
  (app.instances.filter (·.status = .up)).map fun record => (record, rule.candidate record)

end CandidateRule

end MemberDiscovery
