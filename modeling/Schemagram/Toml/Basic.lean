import Schemagram.Keyed
import Schemagram.Decimal.Shortest
import Schemagram.Text.Piece
import Schemagram.Text.Quoted
import Schemagram.Toml.Moment

/-!
# TOML values

A TOML value and the form in which messages show it.
-/

namespace Schemagram

/-- A TOML value.  Tables list their members in the order in which the keys first appear. -/
inductive Toml where
  | string (text : String)
  | boolean (value : Bool)
  | integer (value : Int)
  | double (value : Double)
  | moment (value : Toml.Moment)
  | array (items : List Toml)
  | table (members : List (String × Toml))

namespace Toml

abbrev Members := List (String × Toml)

mutual

/-- A value as messages show it. -/
def shown : Toml → List Char
  | .string text => Text.quoted text.toList
  | .boolean value => (if value then "True" else "False").toList
  | .integer value => Decimal.integer value
  | .double value => value.text Double.plainWords
  | .moment value => value.shown
  | .array items => '[' :: Text.join [',', ' '] (shownItems items) ++ [']']
  | .table members => '\x7b' :: Text.join [',', ' '] (shownMembers members) ++ ['\x7d']

/-- The items of an array as messages show them. -/
def shownItems : List Toml → List (List Char)
  | [] => []
  | item :: more => item.shown :: shownItems more

/-- The members of a table as messages show them. -/
def shownMembers : Members → List (List Char)
  | [] => []
  | (key, value) :: more =>
    (Text.quoted key.toList ++ ':' :: ' ' :: value.shown) :: shownMembers more

end

end Toml

end Schemagram
