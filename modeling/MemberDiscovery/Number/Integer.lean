/-! # Decimal integers in text

`Integer.read?` reads an optional sign and one or more ASCII digits, and nothing else: no blanks, no
digit separators, no digits of other scripts. `Integer.readInt32?` and `Integer.readInt64?` add the
range of a machine word.
-/

namespace MemberDiscovery.Integer

def digit? (c : Char) : Option Nat :=
  if '0' ≤ c ∧ c ≤ '9' then some (c.toNat - '0'.toNat)
  else if 'a' ≤ c ∧ c ≤ 'f' then some (c.toNat - 'a'.toNat + 10)
  else if 'A' ≤ c ∧ c ≤ 'F' then some (c.toNat - 'A'.toNat + 10)
  else none

/-- Reads digits of a base, most significant first, onto an already read part. -/
def readDigits? (base : Nat) (sofar : Nat) : List Char → Option Nat
  | [] => some sofar
  | c :: rest =>
    match digit? c with
    | some d => if d < base then readDigits? base (sofar * base + d) rest else none
    | none => none

def readNat? (base : Nat) (chars : List Char) : Option Nat :=
  if chars.isEmpty then none else readDigits? base 0 chars

/-- Reads an optional sign and at least one digit. -/
def readSigned? (base : Nat) : List Char → Option Int
  | '-' :: rest => (readNat? base rest).map fun n => -(n : Int)
  | '+' :: rest => (readNat? base rest).map Int.ofNat
  | chars => (readNat? base chars).map Int.ofNat

/-- Reads a decimal integer of any size. -/
def read? (text : String) : Option Int :=
  readSigned? 10 text.toList

def minInt32 : Int := -2147483648

def maxInt32 : Int := 2147483647

def minInt64 : Int := -9223372036854775808

def maxInt64 : Int := 9223372036854775807

def maxUInt64 : Nat := 18446744073709551615

def toInt32? (n : Int) : Option Int32 :=
  if minInt32 ≤ n ∧ n ≤ maxInt32 then some (Int32.ofInt n) else none

def toInt64? (n : Int) : Option Int64 :=
  if minInt64 ≤ n ∧ n ≤ maxInt64 then some (Int64.ofInt n) else none

def readInt32? (text : String) : Option Int32 :=
  (read? text).bind toInt32?

def readInt64? (text : String) : Option Int64 :=
  (read? text).bind toInt64?

/-- The digits of a natural number in a base, most significant first, at least one. -/
def digits (base : Nat) (n : Nat) : List Char :=
  Nat.toDigits base n

/-- Decimal text, with a minus sign before a negative value and no sign otherwise. -/
def render (n : Int) : String :=
  if n < 0 then String.ofList ('-' :: digits 10 n.natAbs) else String.ofList (digits 10 n.natAbs)

end MemberDiscovery.Integer
