import Schemagram.Keyed
import Schemagram.Text.CodePoint
import Schemagram.Decimal.Double

/-!
# JSON values

A JSON value.  Strings are lists of code points, because an escape may name a surrogate that has no
partner.  Objects list their members in the order in which the keys first appear.
-/

namespace Schemagram

open Text (CodePoint)

/-- A JSON value. -/
inductive Json where
  | null
  | bool (value : Bool)
  | integer (value : Int)
  | double (value : Double)
  | string (text : List CodePoint)
  | array (items : List Json)
  | object (members : List (List CodePoint × Json))

namespace Json

export Text (points)

def ofString (text : String) : Json := .string (points text)

/-- A natural number as a JSON value. -/
def ofNat (value : Nat) : Json := .integer value

def ofStrings (texts : List String) : Json := .array (texts.map ofString)

/-- An object with the given members, in order. -/
def ofMembers (members : List (String × Json)) : Json :=
  .object (members.map fun (key, value) => (points key, value))

/-- The value of a key, if this is an object that has it. -/
def get? (key : String) : Json → Option Json
  | .object members => Keyed.get? (points key) members
  | _ => none

/-- Whether a value counts as present: null, false, zeros, and empty strings, arrays and objects do
not. -/
def isPresent : Json → Bool
  | .null => false
  | .bool value => value
  | .integer value => value ≠ 0
  | .double value => !value.isZero
  | .string text => !text.isEmpty
  | .array items => !items.isEmpty
  | .object members => !members.isEmpty

def isNumber : Json → Bool
  | .integer _ => true
  | .double _ => true
  | _ => false

end Json

end Schemagram
