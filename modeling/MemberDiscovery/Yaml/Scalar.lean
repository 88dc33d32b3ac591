import MemberDiscovery.Yaml.Basic
import MemberDiscovery.Yaml.Lexeme

/-! # The meaning of YAML scalars

A plain scalar without a tag means what its text looks like: nothing, a truth value, a number or
else a text. Digits after a leading zero are a text. An integer beyond 64 bits that still fits into
128 has no meaning; beyond those it is a double.
-/

namespace MemberDiscovery.Yaml

/-- The beginning of the tags that YAML itself defines. -/
def standardTag (name : String) : String := "tag:yaml.org,2002:" ++ name

def isNull (text : String) : Bool :=
  ["null", "Null", "NULL", "~"].contains text

def readBool? (text : String) : Option Bool :=
  if ["true", "True", "TRUE"].contains text then some true
  else if ["false", "False", "FALSE"].contains text then some false
  else none

/-- The bases that a marked number is written in. -/
def markedBase? : Char → Option Nat
  | 'x' => some 16
  | 'o' => some 8
  | 'b' => some 2
  | _ => none

/-- Reads digits after the mark of their base if there is one, else decimal digits. -/
def readMagnitude? (limit : Nat) (chars : List Char) : Option Nat :=
  let marked := match chars with
    | '0' :: mark :: digits => (markedBase? mark).bind fun base => Integer.readNat? base digits
    | _ => none
  (marked.or (Integer.readNat? 10 chars)).filter (· ≤ limit)

/-- Whether digits follow a leading zero. -/
def hasLeadingZero (chars : List Char) : Bool :=
  match chars with
  | '0' :: rest => !rest.isEmpty && rest.all Char.isDigit
  | _ => false

/-- The text without one sign at its beginning. -/
def dropSign : List Char → List Char
  | '-' :: rest => rest
  | '+' :: rest => rest
  | chars => chars

/-- Reads an integer of at most so many bits, one of them the sign of a negative one. -/
def readInteger? (bits : Nat) (text : String) : Option Int :=
  let chars := text.toList
  if hasLeadingZero (dropSign chars) then none
  else
    match chars with
    | '-' :: rest => (readMagnitude? (Nat.pow 2 (bits - 1)) rest).map fun n => -(n : Int)
    | '+' :: rest => (readMagnitude? (Nat.pow 2 bits - 1) rest).map Int.ofNat
    | _ => (readMagnitude? (Nat.pow 2 bits - 1) chars).map Int.ofNat

def spanDigits (chars : List Char) : List Char × List Char :=
  (chars.takeWhile Char.isDigit, chars.dropWhile Char.isDigit)

/-- Reads the exponent of a decimal number, which may be absent. -/
def readExponent? : List Char → Option Int
  | [] => some 0
  | mark :: rest => if mark = 'e' ∨ mark = 'E' then Integer.readSigned? 10 rest else none

/-- Reads a decimal number without a sign: digits, a point with digits, and an exponent. There is a
digit before or after the point. -/
def readDecimal? (chars : List Char) : Option Binary64 := do
  let (whole, rest) := spanDigits chars
  let (fraction, rest) := match rest with
    | '.' :: rest => spanDigits rest
    | _ => ([], rest)
  let exponent ← readExponent? rest
  let digits ← Integer.readNat? 10 (whole ++ fraction)
  Binary64.ofDecimal? digits (exponent - fraction.length)

def isInfinity (chars : List Char) : Bool :=
  [".inf", ".Inf", ".INF"].contains (String.ofList chars)

def isNotANumber (text : String) : Bool :=
  [".nan", ".NaN", ".NAN"].contains text

def readReal? (text : String) : Option Number :=
  if isNotANumber text then some .notANumber
  else
    match text.toList with
    | '-' :: rest =>
      if isInfinity rest then some (.infinity true)
      else (readDecimal? rest).map fun value => .real value.negate
    | '+' :: rest =>
      if isInfinity rest then some (.infinity false) else (readDecimal? rest).map .real
    | chars =>
      if isInfinity chars then some (.infinity false) else (readDecimal? chars).map .real

/-- The meaning of a plain scalar without a tag. -/
def ofPlain? (text : String) : Option Yaml :=
  if text = "" ∨ isNull text then some .null
  else
    match readBool? text, readInteger? 64 text, readInteger? 128 text with
    | some value, _, _ => some (.bool value)
    | none, some value, _ => some (.number (.integer value))
    | none, none, some _ => none
    | none, none, none =>
      if hasLeadingZero (dropSign text.toList) then some (.string text)
      else
        match readReal? text with
        | some value => some (.number value)
        | none => some (.string text)

/-- The meaning of a scalar. A tag of YAML asks for a kind of value; any other tag that does not
begin with an exclamation mark makes a text. -/
def ofScalar? (tag : Option String) (text : String) (style : ScalarStyle) : Option Yaml :=
  match tag with
  | none => if style = .plain then ofPlain? text else some (.string text)
  | some tag =>
    if tag = standardTag "bool" then (readBool? text).map .bool
    else if tag = standardTag "int" then
      (readInteger? 64 text).map fun value => .number (.integer value)
    else if tag = standardTag "float" then (readReal? text).map .number
    else if tag = standardTag "null" then if isNull text then some .null else none
    else some (.string text)

end MemberDiscovery.Yaml
