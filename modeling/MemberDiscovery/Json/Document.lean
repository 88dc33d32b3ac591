import MemberDiscovery.Json.Basic
import MemberDiscovery.Text.Units

/-! # JSON texts as written

A `Json.Document` keeps what a text says before it is taken as a value: members in their order and
with repetitions, strings whose escapes leave a surrogate unpaired, numbers beyond the range of
doubles. The reader accepts exactly the grammar; whether such a string or number matters is decided
by the one who uses the document, since parts that nobody looks at may hold anything grammatical.
`Json.Document.toJson?` takes a whole document as a value and bounds its nesting.
-/

namespace MemberDiscovery.Json

/-- A JSON text as written. -/
inductive Document where
  | null
  | bool (value : Bool)
  /-- A number; `none` if it is beyond the greatest double. -/
  | number (value : Option Number)
  /-- A string; `none` if an escape leaves a surrogate unpaired. -/
  | string (value : Option String)
  | array (items : List Document)
  | object (members : List (Option String × Document))
  deriving Repr, Inhabited

namespace Document

def maxDepth : Nat := 127

mutual

/-- The value of a document with at most `depth` levels of arrays and objects. -/
def toJson? (depth : Nat) : Document → Option Json
  | .null => some .null
  | .bool value => some (.bool value)
  | .number value => value.map .number
  | .string value => value.map .string
  | .array items => if depth = 0 then none else (toItems? (depth - 1) items).map .array
  | .object members =>
    if depth = 0 then none else (toMembers? (depth - 1) members).map .ofMembers

def toItems? (depth : Nat) : List Document → Option (List Json)
  | [] => some []
  | item :: items => do
    let value ← toJson? depth item
    let values ← toItems? depth items
    return value :: values

def toMembers? (depth : Nat) : List (Option String × Document) → Option (List (String × Json))
  | [] => some []
  | (key, item) :: members => do
    let key ← key
    let value ← toJson? depth item
    let values ← toMembers? depth members
    return (key, value) :: values

end

mutual

def ofJson : Json → Document
  | .null => .null
  | .bool value => .bool value
  | .number value => .number (some value)
  | .string value => .string (some value)
  | .array items => .array (ofItems items)
  | .object members => .object (ofMembers members)

def ofItems : List Json → List Document
  | [] => []
  | item :: items => ofJson item :: ofItems items

def ofMembers : List (String × Json) → List (Option String × Document)
  | [] => []
  | (key, value) :: members => (some key, ofJson value) :: ofMembers members

end

/-! ## Numbers -/

/-- Collects digits into a 64-bit natural number and stops before the first digit that does not fit.
Gives the number, the count of digits taken and the digits left. -/
def takeDigits (sofar : Nat) (taken : Nat) : List Nat → Nat × Nat × List Nat
  | [] => (sofar, taken, [])
  | d :: rest =>
    if sofar * 10 + d ≤ Integer.maxUInt64 then takeDigits (sofar * 10 + d) (taken + 1) rest
    else (sofar, taken, d :: rest)

/-- Ten to a power as a double. -/
def tenPower (power : Nat) : Binary64 :=
  (Binary64.ofDecimal? 1 power).getD (.zero false)

/-- The greatest power of ten that is a double. -/
def greatestTenPower : Nat := 308

/-- Divides by the greatest power of ten a number of times, or until nothing is left. -/
def divideRepeatedly : Nat → Binary64 → Option Binary64
  | 0, x => some x
  | times + 1, x =>
    if x.isZero then some x
    else (x.div? (tenPower greatestTenPower)).bind (divideRepeatedly times)

/-- Divides by a power of ten in steps of at most the greatest one, each step rounded. -/
def divideByTens (x : Binary64) (power : Nat) : Option Binary64 := do
  let times := (power - 1) / greatestTenPower
  let y ← divideRepeatedly times x
  y.div? (tenPower (power - greatestTenPower * times))

/-- A significand of at most 64 bits scaled by a power of ten in double arithmetic. Both the
significand and the power are rounded first, so the last place may differ from that of the nearest
double. -/
def scaleByTens (significand : Nat) (power : Int) : Option Binary64 := do
  let x ← Binary64.ofNat? significand
  if power < 0 then divideByTens x power.natAbs
  else if power ≤ greatestTenPower then x.mul? (tenPower power.toNat)
  else if x.isZero then return x
  else none

/-- The value of a number from its sign, its digits before and after the point, and its exponent.
`none` for a part that is absent. Integers that fit into 64 bits stay integers, minus zero apart. -/
def numberValue? (negative : Bool) (whole : List Nat) (fraction : Option (List Nat))
    (exponent : Option Int) : Option Number :=
  let (leading, _, dropped) := takeDigits 0 0 whole
  match fraction, exponent with
  | none, none =>
    if dropped.isEmpty ∧ ¬ negative then some (.integer leading)
    else if dropped.isEmpty ∧ leading ≠ 0 ∧ leading ≤ Nat.pow 2 63 then some (.integer (-leading))
    else (scaleByTens leading dropped.length).map fun x => .real { x with negative }
  | _, _ =>
    let (significand, taken, _) := takeDigits leading 0 (fraction.getD [])
    -- Digits that were dropped before the point count, those after it do not.
    let shift : Int := (dropped.length : Int) - taken
    let exponent := exponent.getD 0
    -- An exponent that does not fit into 32 bits is decided by its sign.
    if exponent.natAbs > 2147483647 then
      if significand ≠ 0 ∧ 0 < exponent then none else some (.real (.zero negative))
    else (scaleByTens significand (shift + exponent)).map fun x => .real { x with negative }

/-! ## Reading -/

def isSpace (c : Char) : Bool :=
  c = ' ' || c = '\n' || c = '\t' || c = '\r'

def skipSpace (chars : List Char) : List Char :=
  chars.dropWhile isSpace

def digitValue (c : Char) : Nat :=
  c.toNat - '0'.toNat

def spanDigits (chars : List Char) : List Nat × List Char :=
  ((chars.takeWhile Char.isDigit).map digitValue, chars.dropWhile Char.isDigit)

def digitsValue (digits : List Nat) : Nat :=
  digits.foldl (fun n d => n * 10 + d) 0

/-- Reads the fraction of a number: a point and at least one digit, or nothing. -/
def readFraction? : List Char → Option (Option (List Nat) × List Char)
  | '.' :: rest =>
    match spanDigits rest with
    | ([], _) => none
    | (digits, rest) => some (some digits, rest)
  | rest => some (none, rest)

def readExponentDigits? (negative : Bool) (chars : List Char) :
    Option (Option Int × List Char) :=
  match spanDigits chars with
  | ([], _) => none
  | (digits, rest) =>
    let value : Int := digitsValue digits
    some (some (if negative then -value else value), rest)

/-- Reads the exponent of a number: a mark, an optional sign and at least one digit, or nothing. -/
def readExponent? : List Char → Option (Option Int × List Char)
  | c :: rest =>
    if c = 'e' ∨ c = 'E' then
      match rest with
      | '+' :: rest => readExponentDigits? false rest
      | '-' :: rest => readExponentDigits? true rest
      | rest => readExponentDigits? false rest
    else some (none, c :: rest)
  | [] => some (none, [])

/-- Reads a number after its sign. A leading zero stands alone. -/
def readNumber? (negative : Bool) (chars : List Char) : Option (Document × List Char) := do
  let (whole, rest) := spanDigits chars
  if whole.isEmpty ∨ (whole.head? = some 0 ∧ whole.length ≠ 1) then none
  else
    let (fraction, rest) ← readFraction? rest
    let (exponent, rest) ← readExponent? rest
    return (.number (numberValue? negative whole fraction exponent), rest)

def simpleEscape? (c : Char) : Option Char :=
  if c = '"' ∨ c = '\\' ∨ c = '/' then some c
  else if c = 'b' then some '\x08'
  else if c = 'f' then some '\x0c'
  else if c = 'n' then some '\n'
  else if c = 'r' then some '\r'
  else if c = 't' then some '\t'
  else none

/-- A piece of a string: a character or a code unit written as an escape. -/
inductive Piece where
  | char (c : Char)
  | unit (n : Nat)

/-- The code unit of four hexadecimal digits. -/
def hexUnit? (a b c d : Char) : Option Nat :=
  Integer.readDigits? 16 0 [a, b, c, d]

/-- Reads the rest of a string after its opening quote. -/
def readPieces? : List Char → Option (List Piece × List Char)
  | [] => none
  | '"' :: rest => some ([], rest)
  | '\\' :: 'u' :: a :: b :: c :: d :: rest => do
    let unit ← hexUnit? a b c d
    let (pieces, rest) ← readPieces? rest
    return (.unit unit :: pieces, rest)
  | '\\' :: c :: rest => do
    let c ← simpleEscape? c
    let (pieces, rest) ← readPieces? rest
    return (.char c :: pieces, rest)
  | c :: rest =>
    if c = '\\' ∨ c.toNat < 0x20 then none
    else do
      let (pieces, rest) ← readPieces? rest
      return (.char c :: pieces, rest)

/-- Joins the pieces of a string. A high surrogate needs a low one directly after it. -/
def joinPieces? : List Piece → Option (List Char)
  | [] => some []
  | .char c :: rest => (joinPieces? rest).map (c :: ·)
  | .unit n :: rest =>
    if Text.isHighSurrogate n then
      match rest with
      | .unit m :: rest =>
        if Text.isLowSurrogate m then (joinPieces? rest).map (Text.pairChar n m :: ·) else none
      | _ => none
    else if Text.isLowSurrogate n then none
    else (joinPieces? rest).map (Char.ofNat n :: ·)

/-- Reads the rest of a string after its opening quote. -/
def readText? (chars : List Char) : Option (Option String × List Char) := do
  let (pieces, rest) ← readPieces? chars
  return ((joinPieces? pieces).map String.ofList, rest)

/-- Reads the rest of a fixed word. -/
def readWord? (word : List Char) (value : Document) (chars : List Char) :
    Option (Document × List Char) :=
  if word.isPrefixOf chars then some (value, chars.drop word.length) else none

mutual

/-- Reads one value. The first argument bounds the number of nested steps. -/
def readValue? : Nat → List Char → Option (Document × List Char)
  | 0, _ => none
  | fuel + 1, chars =>
    match skipSpace chars with
    | 'n' :: rest => readWord? ['u', 'l', 'l'] .null rest
    | 't' :: rest => readWord? ['r', 'u', 'e'] (.bool true) rest
    | 'f' :: rest => readWord? ['a', 'l', 's', 'e'] (.bool false) rest
    | '-' :: rest => readNumber? true rest
    | '"' :: rest => (readText? rest).map fun (text, rest) => (.string text, rest)
    | '[' :: rest =>
      match skipSpace rest with
      | ']' :: rest => some (.array [], rest)
      | rest => (readItems? fuel rest).map fun (items, rest) => (.array items, rest)
    | '\x7b' :: rest =>
      match skipSpace rest with
      | '\x7d' :: rest => some (.object [], rest)
      | rest => (readMembers? fuel rest).map fun (members, rest) => (.object members, rest)
    | rest => readNumber? false rest

/-- Reads the items of an array up to the closing bracket; there is at least one. -/
def readItems? : Nat → List Char → Option (List Document × List Char)
  | 0, _ => none
  | fuel + 1, chars => do
    let (item, rest) ← readValue? fuel chars
    match skipSpace rest with
    | ',' :: rest =>
      let (items, rest) ← readItems? fuel rest
      return (item :: items, rest)
    | ']' :: rest => return ([item], rest)
    | _ => none

/-- Reads the members of an object up to the closing brace; there is at least one. -/
def readMembers? : Nat → List Char → Option (List (Option String × Document) × List Char)
  | 0, _ => none
  | fuel + 1, chars => do
    match skipSpace chars with
    | '"' :: rest =>
      let (key, rest) ← readText? rest
      match skipSpace rest with
      | ':' :: rest =>
        let (value, rest) ← readValue? fuel rest
        match skipSpace rest with
        | ',' :: rest =>
          let (members, rest) ← readMembers? fuel rest
          return ((key, value) :: members, rest)
        | '\x7d' :: rest => return ([(key, value)], rest)
        | _ => none
      | _ => none
    | _ => none

end

/-- Reads a whole text as one document. Every nested step takes at least one character or one level,
so twice the length of the text suffices as a bound. -/
def parse? (text : String) : Option Document := do
  let chars := text.toList
  let (value, rest) ← readValue? (2 * chars.length + 2) chars
  if (skipSpace rest).isEmpty then some value else none

end Document

def parse? (text : String) : Option Json :=
  (Document.parse? text).bind (·.toJson? Document.maxDepth)

end MemberDiscovery.Json
