import MemberDiscovery.Net.IpAddress
import MemberDiscovery.Text.Blank
import MemberDiscovery.Text.Split

/-! # HTTP addresses

Texts that name something on an HTTP server, read as browsers read them: blanks around them, tabs
and line ends are dropped, a backslash is a slash, dot segments are resolved, and characters that
may not stand in a request line are written as percent escapes of their UTF-8 octets.
-/

namespace MemberDiscovery

/-- A place on an HTTP server. -/
structure Url where
  /-- The host in its canonical form. -/
  host : String
  port : Nat
  /-- Begins with a slash. -/
  path : String
  query : Option String
  fragment : Option String
  deriving DecidableEq, Repr, Inhabited

namespace Url

def escapeOctet (octet : UInt8) : List Char :=
  ['%', (Nat.digitChar (octet.toNat / 16)).toUpper, (Nat.digitChar (octet.toNat % 16)).toUpper]

/-- Escapes a character that is a control, not ASCII, or one of a given set. -/
def escapeChar (reserved : List Char) (c : Char) : List Char :=
  if c.toNat < 0x20 ∨ 0x7E < c.toNat ∨ reserved.contains c then
    (String.utf8EncodeChar c).flatMap escapeOctet
  else [c]

/-- Escapes the characters of a text that may not stand in a part of an address. -/
def escape (reserved : List Char) (chars : List Char) : String :=
  String.ofList (chars.flatMap (escapeChar reserved))

def reservedInFragment : List Char := [' ', '"', '<', '>', '\x60']

def reservedInPath : List Char := reservedInFragment ++ ['#', '?', '\x7b', '\x7d']

def reservedInQuery : List Char := [' ', '"', '#', '<', '>', '\'']

def isSlash (c : Char) : Bool :=
  c = '/' || c = '\\'

/-- Whether a character ends the authority of an address. -/
def endsAuthority (c : Char) : Bool :=
  isSlash c || c = '?' || c = '#'

/-! ## Paths -/

def isSingleDot (segment : List Char) : Bool :=
  [['.'], ['%', '2', 'e']].contains (segment.map Char.toLower)

def isDoubleDot (segment : List Char) : Bool :=
  [['.', '.'], ['.', '%', '2', 'e'], ['%', '2', 'e', '.'],
    ['%', '2', 'e', '%', '2', 'e']].contains (segment.map Char.toLower)

/-- Whether a segment looks like a drive, which a segment that goes up does not leave. -/
def isDrive : List Char → Bool
  | [letter, mark] => letter.isAlpha && (mark = ':' || mark = '|')
  | _ => false

/-- Removes the last of the segments, which are listed in reverse. -/
def leave : List (List Char) → List (List Char)
  | [] => []
  | segment :: above => if isDrive segment then segment :: above else above

/-- Resolves dot segments. The first argument lists the segments above in reverse. A dot segment at
the end leaves an empty segment. -/
def resolve (above : List (List Char)) : List (List Char) → List (List Char)
  | [] => above.reverse
  | [segment] =>
    if isDoubleDot segment then ([] :: leave above).reverse
    else if isSingleDot segment then ([] :: above).reverse
    else (segment :: above).reverse
  | segment :: rest =>
    if isDoubleDot segment then resolve (leave above) rest
    else if isSingleDot segment then resolve above rest
    else resolve (segment :: above) rest

def canonicalPath (chars : List Char) : String :=
  let relative := match chars with
    | c :: rest => if isSlash c then rest else chars
    | [] => []
  String.join ((resolve [] (Text.splitWhere isSlash relative)).map fun segment =>
    "/" ++ escape reservedInPath segment)

/-! ## Hosts -/

def isForbiddenInHost (c : Char) : Bool :=
  c.toNat ≤ 0x20 || c.toNat = 0x7F || ['#', '/', ':', '<', '>', '?', '@', '[', '\\', ']', '^', '|',
    '%'].contains c

/-- The octets of a text in UTF-8, percent escapes undone. -/
def unescapeOctets : List Char → List UInt8
  | '%' :: a :: b :: rest =>
    match Integer.readDigits? 16 0 [a, b] with
    | some n => UInt8.ofNat n :: unescapeOctets rest
    | none => 0x25 :: unescapeOctets (a :: b :: rest)
  | c :: rest => String.utf8EncodeChar c ++ unescapeOctets rest
  | [] => []

/-- A text without percent escapes; `none` if what they stand for is no UTF-8. -/
def unescape? (chars : List Char) : Option (List Char) :=
  (String.fromUTF8? ⟨(unescapeOctets chars).toArray⟩).map String.toList

/-- Reads a part of a numeric host: decimal, octal after a zero, hexadecimal after `0x`. -/
def numericPart? : List Char → Option Nat
  | '0' :: 'x' :: rest => Integer.readDigits? 16 0 rest
  | ['0'] => some 0
  | '0' :: rest => Integer.readDigits? 8 0 rest
  | chars => Integer.readNat? 10 chars

/-- The address of numeric parts: all but the last are octets, the last fills the rest. -/
def numericAddress? : Nat → List Nat → Option Nat
  | width, [last] => if last < Nat.pow 256 width then some last else none
  | width + 1, part :: rest =>
    if part < 256 then (numericAddress? width rest).map (part * Nat.pow 256 width + ·) else none
  | _, _ => none

def octetsOf (address : Nat) : List Nat :=
  [address >>> 24 % 256, address >>> 16 % 256, address >>> 8 % 256, address % 256]

/-- The canonical form of a host that is a name or an IPv4 address. A host whose last part is a
number has to be an address; letters of other scripts are kept. -/
def canonicalName? (chars : List Char) : Option String := do
  let name := (← unescape? chars).map Char.toLower
  if name.isEmpty ∨ name.any isForbiddenInHost then none
  else
    let parts := Text.splitWhere (· = '.') name
    -- One point at the end does not make a part.
    let parts := if parts.getLast? = some [] ∧ 1 < parts.length then parts.dropLast else parts
    let last := parts.getLast?.getD []
    if (last.all Char.isDigit ∧ ¬ last.isEmpty) ∨ (numericPart? last).isSome then do
      let numbers ← parts.mapM numericPart?
      let address ← numericAddress? 4 numbers
      return IpAddress.renderOctets (octetsOf address)
    else some (String.ofList name)

/-- The canonical form of a host. An IPv6 address stands in brackets. -/
def canonicalHost? : List Char → Option String
  | '[' :: rest =>
    if rest.getLast? = some ']' then
      match IpAddress.readSix? rest.dropLast with
      | some (groups, []) => some ("[" ++ IpAddress.renderSix groups ++ "]")
      | _ => none
    else none
  | chars => canonicalName? chars

/-! ## Whole addresses -/

/-- What follows the last at sign, before which a user may be named. -/
def afterUser (authority : List Char) : List Char :=
  (authority.reverse.takeWhile (· ≠ '@')).reverse

/-- Splits host and port. A colon in brackets belongs to the host. -/
def splitPort (inBrackets : Bool) : List Char → List Char × Option (List Char)
  | [] => ([], none)
  | c :: rest =>
    if c = ':' ∧ ¬ inBrackets then ([], some rest)
    else
      let inBrackets := c = '[' || (inBrackets && c ≠ ']')
      let (host, port) := splitPort inBrackets rest
      (c :: host, port)

/-- Reads a port; an empty one is the port of HTTP. -/
def port? : Option (List Char) → Option Nat
  | none | some [] => some 80
  | some digits => (Integer.readNat? 10 digits).filter (· ≤ 65535)

/-- The part of an address after a mark, if the mark is there. -/
def afterMark (mark : Char) (chars : List Char) : Option (List Char) :=
  match chars.dropWhile (· ≠ mark) with
  | [] => none
  | _ :: rest => some rest

/-- The address without blanks around it and without tabs and line ends. -/
def clean (text : String) : List Char :=
  let isOuter : Char → Bool := fun c => c.toNat ≤ 0x20
  (Text.dropTrailing isOuter (text.toList.dropWhile isOuter)).filter fun c =>
    c ≠ '\t' && c ≠ '\n' && c ≠ '\r'

def parse? (text : String) : Option Url := do
  let chars := clean text
  if (chars.take 5).map Char.toLower ≠ ['h', 't', 't', 'p', ':'] then none
  else
    -- Any number of slashes is taken for the two.
    let rest := (chars.drop 5).dropWhile isSlash
    let authority := rest.takeWhile (!endsAuthority ·)
    let rest := rest.dropWhile (!endsAuthority ·)
    let (hostPart, portPart) := splitPort false (afterUser authority)
    let host ← canonicalHost? hostPart
    let port ← port? portPart
    let beforeFragment := rest.takeWhile (· ≠ '#')
    return {
      host, port
      path := canonicalPath (beforeFragment.takeWhile (· ≠ '?'))
      query := (afterMark '?' beforeFragment).map (escape reservedInQuery)
      fragment := (afterMark '#' rest).map (escape reservedInFragment) }

def authority (url : Url) : String :=
  if url.port = 80 then url.host else url.host ++ ":" ++ Integer.render url.port

def pathAndQuery (url : Url) : String :=
  match url.query with
  | some query => url.path ++ "?" ++ query
  | none => url.path

/-- The address up to the fragment, which is never sent. -/
def absolute (url : Url) : String :=
  "http://" ++ url.authority ++ url.pathAndQuery

def render (url : Url) : String :=
  match url.fragment with
  | some fragment => url.absolute ++ "#" ++ fragment
  | none => url.absolute

/-- A character of a form value: letters, digits and four marks stand for themselves, a blank is a
plus sign. -/
def escapeFormChar (c : Char) : List Char :=
  if c.isAlphanum ∨ ['*', '-', '.', '_'].contains c then [c]
  else if c = ' ' then ['+']
  else (String.utf8EncodeChar c).flatMap escapeOctet

/-- A form value. -/
def escapeForm (text : String) : String :=
  String.ofList (text.toList.flatMap escapeFormChar)

/-- Appends form values to the query. -/
def addQuery (pairs : List (String × String)) (url : Url) : Url :=
  let added := pairs.map fun (key, value) => escapeForm key ++ "=" ++ escapeForm value
  let present := match url.query with
    | some query => if query = "" then [] else [query]
    | none => []
  { url with query := some (String.intercalate "&" (present ++ added)) }

end Url

end MemberDiscovery
