import MemberDiscovery.Number.Binary64

/-! # The shortest decimal of a double

Every real number in an interval around a double is read back as that double. `shortest` takes from
the interval the decimal with the fewest digits, and of several the one nearest to the double, an
exact tie going to the even digit. `Layout` then says how the digits are written.
-/

namespace MemberDiscovery

/-- A positive decimal number `digits · 10 ^ power`. -/
structure Decimal where
  /-- All digits, read as one natural number. -/
  digits : Nat
  /-- The power of ten of the last digit. -/
  power : Int
  deriving DecidableEq, Repr, Inhabited

/-- The numbers that are read back as one double, as four times the numerators over one
denominator: the lower end, the double itself and the upper end. -/
structure RoundingInterval where
  /-- Numerator of the lower end. -/
  low : Nat
  /-- Numerator of the double. -/
  value : Nat
  /-- Numerator of the upper end. -/
  high : Nat
  /-- The common denominator. -/
  denominator : Nat
  /-- Whether the ends belong to the interval. -/
  closed : Bool

namespace RoundingInterval

/-- The interval of a positive double. Below a power of two the neighbour is only half as far. -/
def of (x : Binary64) : RoundingInterval :=
  let (num, den) := ({ x with significand := 1 } : Binary64).ratio
  let below := if x.significand = Nat.pow 2 52 ∧ Binary64.minExponent < x.exponent then 1 else 2
  { low := (4 * x.significand - below) * num
    value := 4 * x.significand * num
    high := (4 * x.significand + 2) * num
    denominator := 4 * den
    closed := x.significand % 2 == 0 }

def contains (interval : RoundingInterval) (n : Nat) (power : Int) : Bool :=
  let scaled := n * interval.denominator * Nat.pow 10 power.toNat
  let low := interval.low * Nat.pow 10 (-power).toNat
  let high := interval.high * Nat.pow 10 (-power).toNat
  if interval.closed then low ≤ scaled && scaled ≤ high else low < scaled && scaled < high

/-- The multiple of `10 ^ power` in the interval that is nearest to the double. -/
def nearest? (interval : RoundingInterval) (power : Int) : Option Nat :=
  let num := interval.value * Nat.pow 10 (-power).toNat
  let den := interval.denominator * Nat.pow 10 power.toNat
  let below := num / den
  match interval.contains below power, interval.contains (below + 1) power with
  | true, true => some (Binary64.roundHalfEven num den)
  | true, false => some below
  | false, true => some (below + 1)
  | false, false => none

/-- Tries finer and finer grids of powers of ten. -/
def search (interval : RoundingInterval) : Nat → Int → Decimal
  | 0, power => ⟨interval.value * Nat.pow 10 (-power).toNat / interval.denominator, power⟩
  | tries + 1, power =>
    match interval.nearest? power with
    | some digits => ⟨digits, power⟩
    | none => search interval tries (power - 1)

end RoundingInterval

namespace Binary64

/-- A power of ten above the absolute value of a number that is not zero. -/
def powerAbove (x : Binary64) : Int :=
  let (num, den) := x.ratio
  if den ≤ num then (Nat.toDigits 10 (num / den)).length
  else 2 - ((Nat.toDigits 10 (den / num)).length : Int)

/-- The shortest decimal that is read back as the absolute value of a number that is not zero.
Seventeen digits always suffice, so twenty grids are enough. -/
def shortest (x : Binary64) : Decimal :=
  (RoundingInterval.of x).search 20 x.powerAbove

end Binary64

/-- How the exponent of a number in scientific notation is written. -/
structure Layout where
  /-- Whether a non-negative exponent has a plus sign. -/
  plusSign : Bool
  deriving DecidableEq, Repr

namespace Layout

/-- Digits with a point, a power of ten away from zero or an exponent: positional from `10 ^ -5` up
to below `10 ^ 16`, always with at least one digit after the point, and scientific otherwise. -/
def write (layout : Layout) (decimal : Decimal) : List Char :=
  let digits := Nat.toDigits 10 decimal.digits
  let length : Int := digits.length
  let point := length + decimal.power
  if 0 ≤ decimal.power ∧ point ≤ 16 then
    digits ++ List.replicate decimal.power.toNat '0' ++ ['.', '0']
  else if 0 < point ∧ point ≤ 16 then
    digits.take point.toNat ++ '.' :: digits.drop point.toNat
  else if -5 < point ∧ point ≤ 0 then
    '0' :: '.' :: List.replicate (-point).toNat '0' ++ digits
  else
    let exponent := point - 1
    let sign := if exponent < 0 then ['-'] else if layout.plusSign then ['+'] else []
    let fraction := if digits.length = 1 then [] else '.' :: digits.drop 1
    digits.take 1 ++ fraction ++ 'e' :: sign ++ Nat.toDigits 10 exponent.natAbs

def render (layout : Layout) (x : Binary64) : List Char :=
  let sign := if x.negative then ['-'] else []
  if x.isZero then sign ++ ['0', '.', '0'] else sign ++ layout.write x.shortest

end Layout

end MemberDiscovery
