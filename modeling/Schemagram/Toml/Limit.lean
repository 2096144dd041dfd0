import Schemagram.Decimal.Limit
import Schemagram.Toml.Basic

/-!
# Limits on the integers of TOML values

Only an integer in base ten is too long to be read, so that a document may hold integers beyond the
limit.  A value in which there is one cannot be shown.
-/

namespace Schemagram.Toml

section

variable (limit? : Option Nat)

mutual

/-- Whether all integers of a value are within a limit. -/
def fits : Toml → Bool
  | .integer value => Decimal.isWithin limit? value
  | .array items => fitItems items
  | .table members => fitMembers members
  | _ => true

def fitItems : List Toml → Bool
  | [] => true
  | item :: more => fits item && fitItems more

/-- Whether all integers of the members of a table are within a limit. -/
def fitMembers : Members → Bool
  | [] => true
  | (_, value) :: more => fits value && fitMembers more

end

end

end Schemagram.Toml
