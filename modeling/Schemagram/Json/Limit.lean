import Schemagram.Decimal.Limit
import Schemagram.Json.Basic

/-!
# Limits on the integers of JSON values

Under a limit on digits every integer of a value must fit, however deep it stands.  Doubles have no
limit.
-/

namespace Schemagram.Json

open Text (CodePoint)

section

variable (limit? : Option Nat)

mutual

/-- Whether all integers of a value are within a limit. -/
def fits : Json → Bool
  | .integer value => Decimal.isWithin limit? value
  | .array items => fitItems items
  | .object members => fitMembers members
  | _ => true

def fitItems : List Json → Bool
  | [] => true
  | item :: more => fits item && fitItems more

/-- Whether all integers of the members of an object are within a limit. -/
def fitMembers : List (List CodePoint × Json) → Bool
  | [] => true
  | (_, value) :: more => fits value && fitMembers more

end

end

variable {limit? : Option Nat}

theorem fits_array {items : List Json} : fits limit? (.array items) = true ↔ ∀ item ∈ items,
    fits limit? item = true := by
  rw [fits]
  induction items with
  | nil => simp [fitItems]
  | cons item more ih => simp [fitItems, ih]

theorem fits_object {members : List (List CodePoint × Json)} :
    fits limit? (.object members) = true ↔ ∀ member ∈ members, fits limit? member.2 = true := by
  rw [fits]
  induction members with
  | nil => simp [fitMembers]
  | cons member more ih => simp [fitMembers, ih]

/-- The excess of digits of a number that is read, if there is one. -/
def readExcess? (limit? : Option Nat) : Json → Option Decimal.Excess
  | .integer value => Decimal.readExcess? limit? value
  | _ => none

end Schemagram.Json
