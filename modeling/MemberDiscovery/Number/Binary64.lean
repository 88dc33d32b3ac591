/-! # Double-precision numbers

Finite numbers of the IEEE 754 format `binary64`, as a sign, an integer and a power of two. All
arithmetic is exact arithmetic on natural numbers followed by one rounding to the nearest
representable value, ties to the even significand.
-/

namespace MemberDiscovery

/-- A finite double: `significand · 2 ^ exponent`, negated if `negative`. -/
structure Binary64 where
  /-- The sign, which zero has too. -/
  negative : Bool
  /-- At most 53 bits; exactly 53 unless the exponent is the least one. -/
  significand : Nat
  /-- Between -1074 and 971. -/
  exponent : Int
  deriving DecidableEq, Repr, Inhabited

namespace Binary64

/-- The least exponent, which subnormal numbers and zero have. -/
def minExponent : Int := -1074

def maxExponent : Int := 971

def zero (negative : Bool) : Binary64 := ⟨negative, 0, minExponent⟩

def negate (x : Binary64) : Binary64 := { x with negative := !x.negative }

def isZero (x : Binary64) : Bool := x.significand == 0

/-- Numeric equality, for which both zeros are equal. -/
def numericEq (x y : Binary64) : Bool :=
  (x.isZero && y.isZero) || x == y

/-- The fraction `num / den` divided by `2 ^ exponent`, as a fraction. -/
def scale (num den : Nat) (exponent : Int) : Nat × Nat :=
  if 0 ≤ exponent then (num, den * Nat.pow 2 exponent.toNat)
  else (num * Nat.pow 2 (-exponent).toNat, den)

/-- The integer nearest to a fraction, an exact half going to the even neighbour. -/
def roundHalfEven (num den : Nat) : Nat :=
  let quotient := num / den
  let rest := num % den
  if 2 * rest < den then quotient
  else if den < 2 * rest then quotient + 1
  else quotient + quotient % 2

/-- The exponent at which a positive fraction has a significand of 53 bits, but at least
`minExponent`. The bit lengths of the two numbers leave two candidates. -/
def exponentOf (num den : Nat) : Int :=
  let guess : Int := (num.log2 : Int) - (den.log2 : Int) - 53
  let scaled := scale num den guess
  let exponent := if scaled.1 / scaled.2 < Nat.pow 2 53 then guess else guess + 1
  max exponent minExponent

/-- The double nearest to a non-negative fraction; `none` beyond the greatest double. -/
def ofRatio? (num den : Nat) : Option Binary64 :=
  if num = 0 then some (zero false)
  else
    let exponent := exponentOf num den
    let scaled := scale num den exponent
    let significand := roundHalfEven scaled.1 scaled.2
    let rounded : Binary64 :=
      if significand = Nat.pow 2 53 then ⟨false, Nat.pow 2 52, exponent + 1⟩
      else ⟨false, significand, exponent⟩
    if maxExponent < rounded.exponent then none else some rounded

def ratio (x : Binary64) : Nat × Nat :=
  if 0 ≤ x.exponent then (x.significand * Nat.pow 2 x.exponent.toNat, 1)
  else (x.significand, Nat.pow 2 (-x.exponent).toNat)

/-- The double nearest to a natural number. -/
def ofNat? (n : Nat) : Option Binary64 := ofRatio? n 1

def mul? (x y : Binary64) : Option Binary64 :=
  ofRatio? (x.ratio.1 * y.ratio.1) (x.ratio.2 * y.ratio.2)

def div? (x y : Binary64) : Option Binary64 :=
  ofRatio? (x.ratio.1 * y.ratio.2) (x.ratio.2 * y.ratio.1)

/-- The double nearest to `digits · 10 ^ power`; `none` beyond the greatest double. Powers far
outside the range of doubles are decided by the number of digits alone. -/
def ofDecimal? (digits : Nat) (power : Int) : Option Binary64 :=
  let magnitude : Int := (Nat.toDigits 10 digits).length + power
  if digits = 0 then some (zero false)
  else if 400 < magnitude then none
  else if magnitude < -400 then some (zero false)
  else if 0 ≤ power then ofRatio? (digits * Nat.pow 10 power.toNat) 1
  else ofRatio? digits (Nat.pow 10 (-power).toNat)

end Binary64

end MemberDiscovery
