import Schemagram.Decimal.Double

/-!
# The shortest decimal of a double

A double is written with the fewest digits that read back as the same double, and of two such
decimals with the one nearer to it.  For one digit, two digits, and so on up to seventeen, the two
neighbours of the value on the grid of that many digits are tested; the first grid with a hit wins.

The layout of the digits is a decision of its own: positional between `1e-4` and `1e16`, with an
exponent of at least two digits outside.
-/

namespace Schemagram.Double

/-- A positive decimal: `digits * 10 ^ power`. -/
structure Shortest where
  digits : Nat
  power : Int
  deriving DecidableEq, Repr

namespace Shortest

/-- A positive real as a fraction. -/
structure Ratio where
  numerator : Nat
  denominator : Nat

/-- A whole number times a power of two. -/
def Ratio.ofBinary (significand : Nat) (exponent : Int) : Ratio :=
  match exponent with
  | .ofNat power => ⟨significand * Nat.pow 2 power, 1⟩
  | .negSucc power => ⟨significand, Nat.pow 2 (power + 1)⟩

def Ratio.divTen (ratio : Ratio) (power : Int) : Ratio :=
  match power with
  | .ofNat power => ⟨ratio.numerator, ratio.denominator * Nat.pow 10 power⟩
  | .negSucc power => ⟨ratio.numerator * Nat.pow 10 (power + 1), ratio.denominator⟩

/-- Whether a ratio is below a whole number, or equal to it if that counts. -/
def Ratio.isBelow (ratio : Ratio) (bound : Nat) (orEqual : Bool) : Bool :=
  if orEqual then ratio.numerator ≤ bound * ratio.denominator
  else ratio.numerator < bound * ratio.denominator

/-- Whether a whole number is below a ratio, or equal to it if that counts. -/
def Ratio.isAbove (ratio : Ratio) (bound : Nat) (orEqual : Bool) : Bool :=
  if orEqual then bound * ratio.denominator ≤ ratio.numerator
  else bound * ratio.denominator < ratio.numerator

/-- The number of digits before the decimal point; zero or negative for a value below one tenth. -/
def pointOf (value : Ratio) : Int :=
  let whole := value.numerator / value.denominator
  if whole ≠ 0 then (Decimal.digits whole).length
  else
    let zeros := (Decimal.digits (value.denominator / value.numerator)).length
    if value.denominator ≤ value.numerator * Nat.pow 10 (zeros - 1) then 2 - (zeros : Int)
      else 1 - zeros

/-- The value of a double with the interval of the reals that round to it. -/
structure Interval where
  low : Ratio
  value : Ratio
  high : Ratio
  /-- Whether the ends round to the double too: they are ties, which go to an even significand. -/
  hasEnds : Bool

/-- The interval of a positive double.  Below a power of two the next double is half as far away. -/
def Interval.ofBinary (significand : Nat) (exponent : Int) : Interval :=
  let below := if significand = Nat.pow 2 52 && exponent ≠ leastExponent then 1 else 2
  { low := .ofBinary (4 * significand - below) (exponent - 2)
    value := .ofBinary (4 * significand) (exponent - 2)
    high := .ofBinary (4 * significand + 2) (exponent - 2)
    hasEnds := significand % 2 = 0 }

/-- Whether `digits * 10 ^ power` lies in an interval. -/
def Interval.holds (interval : Interval) (digits : Nat) (power : Int) : Bool :=
  (interval.low.divTen power).isBelow digits interval.hasEnds &&
    (interval.high.divTen power).isAbove digits interval.hasEnds

/-- The hit on the grid of a power of ten that is nearest to the value, if there is one. -/
def onGrid? (interval : Interval) (power : Int) : Option Shortest :=
  let value := interval.value.divTen power
  let down := value.numerator / value.denominator
  let up := down + 1
  match interval.holds down power, interval.holds up power with
  | false, false => none
  | true, false => some ⟨down, power⟩
  | false, true => some ⟨up, power⟩
  | true, true =>
    some ⟨roundDiv value.numerator value.denominator, power⟩

/-- A decimal without zeros at its end. -/
def withoutZeros (decimal : Shortest) : Shortest :=
  if decimal.digits ≠ 0 && decimal.digits % 10 = 0 then
    withoutZeros ⟨decimal.digits / 10, decimal.power + 1⟩
  else decimal
termination_by decimal.digits
decreasing_by
  rename_i trailing
  simp only [Bool.and_eq_true, decide_eq_true_eq] at trailing
  omega

/-- The shortest decimal of a positive double. -/
def ofBinary (significand : Nat) (exponent : Int) : Shortest :=
  let interval := Interval.ofBinary significand exponent
  let point := pointOf interval.value
  let found := (List.range 17).findSome? fun (length : Nat) =>
    onGrid? interval (point - (length + 1))
  (found.getD ⟨significand, 0⟩).withoutZeros

end Shortest

/-! ### Layout -/

/-- Digits with a decimal point among, before or behind them, and at least one digit on each
side. -/
def positional (digits : List Char) (point : Int) : List Char :=
  match point with
  | .negSucc zeros => '0' :: '.' :: List.replicate (zeros + 1) '0' ++ digits
  | .ofNat 0 => '0' :: '.' :: digits
  | .ofNat before =>
    let whole := digits.take before
    let padded := whole ++ List.replicate (before - whole.length) '0'
    let fraction := digits.drop before
    padded ++ '.' :: if fraction.isEmpty then ['0'] else fraction

/-- Digits with a point behind the first one and a signed exponent of at least two digits. -/
def exponential (digits : List Char) (exponent : Int) : List Char :=
  let fraction := digits.drop 1
  let mantissa := digits.take 1 ++ if fraction.isEmpty then [] else '.' :: fraction
  let size := Decimal.digits exponent.natAbs
  let padded := if size.length < 2 then '0' :: size else size
  mantissa ++ 'e' :: (if exponent < 0 then '-' else '+') :: padded

/-- The digits of a positive decimal, laid out by its size. -/
def layout (decimal : Shortest) : List Char :=
  let digits := Decimal.digits decimal.digits
  let point := digits.length + decimal.power
  if -4 ≤ point - 1 && point - 1 < 16 then positional digits point
  else exponential digits (point - 1)

/-- The words for values that have no digits. -/
structure Words where
  nan : String
  infinity : String

/-- A double with the words for values that have no digits. -/
def text (words : Words) : Double → List Char
  | .nan => words.nan.toList
  | .infinity isNegative => (if isNegative then ['-'] else []) ++ words.infinity.toList
  | .finite isNegative significand exponent =>
    (if isNegative then ['-'] else []) ++
      if significand = 0 then ['0', '.', '0'] else layout (Shortest.ofBinary significand exponent)

def plainWords : Words := ⟨"nan", "inf"⟩

end Schemagram.Double
