import Schemagram.Decimal.Natural

/-!
# Limits on digits

Converting integers to and from decimal digits takes time that grows faster than their length, so
the conversion may be limited to a number of digits.  A sign does not count, and neither do numbers
in another base or doubles.

Where there is a limit, an integer beyond it can neither be read nor be shown.
-/

namespace Schemagram.Decimal

/-- The limit that holds unless another one is set. -/
def usualLimit : Option Nat := some 4300

/-- The number of decimal digits of an integer. -/
def digitCount (value : Int) : Nat := (digits value.natAbs).length

/-- Whether an integer has no more digits than a limit allows, if there is one. -/
def isWithin (limit? : Option Nat) (value : Int) : Bool := limit?.all (digitCount value ≤ ·)

/-- An integer has more digits than the limit allows.  How many it has is known where they are
read. -/
structure Excess where
  limit : Nat
  count? : Option Nat
  deriving DecidableEq, Repr

def Excess.message (excess : Excess) : String :=
  let found := match excess.count? with
    | some count => ": value has " ++ text count ++ " digits"
    | none => ""
  "Exceeds the limit (" ++ text excess.limit ++ " digits) for integer string conversion" ++ found ++
    "; use sys.set_int_max_str_digits() to increase the limit"

/-- The excess of an integer whose digits are read, if there is one. -/
def readExcess? (limit? : Option Nat) (value : Int) : Option Excess :=
  if isWithin limit? value then none else limit?.map (⟨·, digitCount value⟩)

/-- The excess of integers that are to be shown, if one of them is beyond the limit. -/
def shownExcess? (limit? : Option Nat) (areWithin : Bool) : Option Excess :=
  if areWithin then none else limit?.map (⟨·, none⟩)

theorem readExcess?_eq_none_iff {limit? : Option Nat} {value : Int} :
    readExcess? limit? value = none ↔ isWithin limit? value = true := by
  cases limit? with
  | none => exact iff_of_true rfl rfl
  | some limit => simp [readExcess?]

end Schemagram.Decimal
