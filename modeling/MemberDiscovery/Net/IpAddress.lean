import MemberDiscovery.Number.Integer
import MemberDiscovery.Table

/-! # IP addresses

Reading and writing IP addresses. An IPv4 address is four decimal octets without leading zeros. An
IPv6 address is eight groups of up to four hexadecimal digits, of which one run of zeros may be left
out as `::` and the last two may be written as an IPv4 address. It is written in lower case with its
longest run of at least two zero groups left out, the first of several.
-/

namespace MemberDiscovery

/-- An IP address. -/
inductive IpAddress where
  /-- Four octets. -/
  | v4 (octets : List Nat)
  /-- Eight groups of sixteen bits. -/
  | v6 (groups : List Nat)
  deriving DecidableEq, Repr, Inhabited

namespace IpAddress

def spanDigits (base : Nat) (chars : List Char) : List Char × List Char :=
  let isDigit := fun c => (Integer.digit? c).any (· < base)
  (chars.takeWhile isDigit, chars.dropWhile isDigit)

def readOctet? (chars : List Char) : Option (Nat × List Char) := do
  let (digits, rest) := spanDigits 10 chars
  if digits.length > 3 ∨ (digits.head? = some '0' ∧ digits.length ≠ 1) then none
  else
    let octet ← Integer.readNat? 10 digits
    if octet < 256 then some (octet, rest) else none

def readChar? (expected : Char) : List Char → Option (List Char)
  | c :: rest => if c = expected then some rest else none
  | [] => none

def readOctets? : Nat → List Char → Option (List Nat × List Char)
  | 0, _ => none
  | 1, chars => (readOctet? chars).map fun (octet, rest) => ([octet], rest)
  | count + 2, chars => do
    let (octet, rest) ← readOctet? chars
    let rest ← readChar? '.' rest
    let (octets, rest) ← readOctets? (count + 1) rest
    return (octet :: octets, rest)

def readGroup? (chars : List Char) : Option (Nat × List Char) := do
  let (digits, rest) := spanDigits 16 chars
  if digits.length > 4 then none
  else
    let group ← Integer.readNat? 16 digits
    return (group, rest)

/-- Reads the colon before a group, which the first group does not have. -/
def readColon? (isFirst : Bool) (chars : List Char) : Option (List Char) :=
  if isFirst then some chars else readChar? ':' chars

def groupsOfOctets : List Nat → List Nat
  | [a, b, c, d] => [a * 256 + b, c * 256 + d]
  | _ => []

/-- Reads as many groups as there are, but not more than a limit. An IPv4 address in the place of
two groups ends the groups, which the flag in the answer tells. -/
def readGroups (isFirst : Bool) : Nat → List Char → List Nat × Bool × List Char
  | 0, chars => ([], false, chars)
  | limit + 1, chars =>
    let embedded := if limit = 0 then none
      else (readColon? isFirst chars).bind (readOctets? 4)
    match embedded with
    | some (octets, rest) => (groupsOfOctets octets, true, rest)
    | none =>
      match (readColon? isFirst chars).bind readGroup? with
      | some (group, rest) =>
        let (groups, hasOctets, rest) := readGroups false limit rest
        (group :: groups, hasOctets, rest)
      | none => ([], false, chars)

/-- Reads the groups of an IPv6 address and fills up the run that is left out. -/
def readSix? (chars : List Char) : Option (List Nat × List Char) := do
  let (front, hasOctets, rest) := readGroups true 8 chars
  if front.length = 8 then return (front, rest)
  else if hasOctets then none
  else
    let rest ← readChar? ':' rest
    let rest ← readChar? ':' rest
    let (back, _, rest) := readGroups true (7 - front.length) rest
    return (front ++ List.replicate (8 - front.length - back.length) 0 ++ back, rest)

def parse? (text : String) : Option IpAddress :=
  match readOctets? 4 text.toList with
  | some (octets, []) => some (.v4 octets)
  | some _ => none
  | none =>
    match readSix? text.toList with
    | some (groups, []) => some (.v6 groups)
    | _ => none

/-- Start and length of the longest run of zeros, the first of several. The arguments are the
position, the run that ends before it and the longest run so far. -/
def longestZeros (position : Nat) (run best : Nat × Nat) : List Nat → Nat × Nat
  | [] => best
  | group :: rest =>
    if group = 0 then
      let run := if run.2 = 0 then (position, 1) else (run.1, run.2 + 1)
      longestZeros (position + 1) run (if best.2 < run.2 then run else best) rest
    else longestZeros (position + 1) (0, 0) best rest

def renderOctets (octets : List Nat) : String :=
  String.intercalate "." (octets.map fun (octet : Nat) => Integer.render octet)

def renderGroups (groups : List Nat) : String :=
  String.intercalate ":" (groups.map fun group => String.ofList (Integer.digits 16 group))

/-- Groups with their longest run of zeros left out. -/
def renderSix (groups : List Nat) : String :=
  let zeros := longestZeros 0 (0, 0) (0, 0) groups
  if 1 < zeros.2 then
    renderGroups (groups.take zeros.1) ++ "::" ++ renderGroups (groups.drop (zeros.1 + zeros.2))
  else renderGroups groups

/-- The canonical text of an IP address. An IPv4 address in the range for them keeps its octets. -/
def render : IpAddress → String
  | .v4 octets => renderOctets octets
  | .v6 [0, 0, 0, 0, 0, 0xFFFF, high, low] =>
    "::ffff:" ++ renderOctets [high / 256, high % 256, low / 256, low % 256]
  | .v6 groups => renderSix groups

end IpAddress

/-- A host and a port. -/
structure Address where
  host : String
  port : UInt16
  deriving DecidableEq, Repr, Inhabited

namespace Address

/-- The text of an address. An IPv6 host is written canonically and in brackets, any other host as
it is. -/
def display (address : Address) : String :=
  match IpAddress.parse? address.host with
  | some (.v6 groups) =>
    "[" ++ (IpAddress.v6 groups).render ++ "]:" ++ Integer.render address.port.toNat
  | _ => address.host ++ ":" ++ Integer.render address.port.toNat

end Address

/-- A member of a cluster, with the address inside the network and the one outside of it. -/
structure Node where
  privateAddress : Address
  publicAddress : Address
  properties : Table String
  deriving DecidableEq, Repr, Inhabited

end MemberDiscovery
