import Schemagram.Decimal.Natural

/-!
# Doubles

Binary floating-point numbers of double precision as exact values: a sign, a whole significand below
`2 ^ 53`, and the exponent of the power of two that it is multiplied with.  Reading a decimal rounds
it to the nearest double, a half going to the even significand.
-/

namespace Schemagram

/-- A double: a significand times a power of two, an infinity, or no number. -/
inductive Double where
  | nan
  | infinity (isNegative : Bool)
  | finite (isNegative : Bool) (significand : Nat) (exponent : Int)
  deriving DecidableEq, Repr

namespace Double

/-- The exponent of the smallest doubles. -/
def leastExponent : Int := -1074

/-- The exponent of the largest doubles. -/
def greatestExponent : Int := 971

/-- A quotient rounded to the nearest whole number, a half to the even one. -/
def roundDiv (numerator denominator : Nat) : Nat :=
  let quotient := numerator / denominator
  let remainder := numerator % denominator
  if 2 * remainder < denominator then quotient
  else if denominator < 2 * remainder then quotient + 1
  else quotient + quotient % 2

/-- A quotient divided by a power of two, as a fraction. -/
def scaled (numerator denominator : Nat) (exponent : Int) : Nat × Nat :=
  match exponent with
  | .ofNat power => (numerator, denominator * Nat.pow 2 power)
  | .negSucc power => (numerator * Nat.pow 2 (power + 1), denominator)

/-- The exponent with which the double nearest to a positive quotient is written. -/
def exponentOf (numerator denominator : Nat) : Int :=
  let low : Int := (numerator.log2 : Int) - denominator.log2 - 53
  let (top, bottom) := scaled numerator denominator low
  let fitting := if top / bottom < Nat.pow 2 53 then low else low + 1
  max fitting leastExponent

/-- The double nearest to a quotient. -/
def ofRatio (isNegative : Bool) (numerator denominator : Nat) : Double :=
  if numerator = 0 then .finite isNegative 0 leastExponent
  else
    let exponent := exponentOf numerator denominator
    let (top, bottom) := scaled numerator denominator exponent
    let rounded := roundDiv top bottom
    let (significand, exponent) :=
      if rounded < Nat.pow 2 53 then (rounded, exponent) else (rounded / 2, exponent + 1)
    if exponent ≤ greatestExponent then .finite isNegative significand exponent
    else .infinity isNegative

/-- The double nearest to `digits * 10 ^ power`.  Far beyond the range of doubles no power is
formed. -/
def ofDecimal (isNegative : Bool) (digits : Nat) (power : Int) : Double :=
  if digits = 0 then .finite isNegative 0 leastExponent
  else
    let magnitude : Int := (Decimal.digits digits).length + power
    if magnitude > 400 then .infinity isNegative
    else if magnitude < -400 then .finite isNegative 0 leastExponent
    else
      match power with
      | .ofNat power => ofRatio isNegative (digits * Nat.pow 10 power) 1
      | .negSucc power => ofRatio isNegative digits (Nat.pow 10 (power + 1))

/-- Whether a double is a zero of either sign. -/
def isZero : Double → Bool
  | .finite _ significand _ => significand = 0
  | _ => false

end Double

end Schemagram
