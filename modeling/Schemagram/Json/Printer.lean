import Schemagram.Json.Basic
import Schemagram.Decimal.Shortest
import Schemagram.Text.Quoted

/-!
# Writing JSON

Two layouts of one notation: on a single line, and with every item on a line of its own.  Strings
are written with basic characters only; every other code point is an escape, and one beyond four
digits is a pair of escapes.
-/

namespace Schemagram.Json

open Text (CodePoint hexDigits)

/-! ### Strings -/

def unitEscape (unit : Nat) : List Char := '\\' :: 'u' :: hexDigits 4 unit

/-- A code point as one escape, or as a surrogate pair. -/
def pointEscape (point : Nat) : List Char :=
  if point < 0x10000 then unitEscape point
  else
    unitEscape (0xD800 + (point - 0x10000) / 0x400) ++
      unitEscape (0xDC00 + (point - 0x10000) % 0x400)

/-- The escapes of one letter. -/
def shortEscape? (point : Nat) : Option Char :=
  if point = 0x22 then some '"'
  else if point = 0x5C then some '\\'
  else if point = 0x0A then some 'n'
  else if point = 0x0D then some 'r'
  else if point = 0x09 then some 't'
  else if point = 0x0C then some 'f'
  else if point = 0x08 then some 'b'
  else none

/-- A code point inside quotes. -/
def stringPoint (point : CodePoint) : List Char :=
  match shortEscape? point.val with
  | some letter => ['\\', letter]
  | none =>
    if 0x20 ≤ point.val && point.val ≤ 0x7E then [Char.ofNat point.val] else pointEscape point.val

def printString (text : List CodePoint) : List Char := '"' :: text.flatMap stringPoint ++ ['"']

/-! ### Values -/

/-- The words for doubles without digits. -/
def doubleWords : Double.Words := ⟨"NaN", "Infinity"⟩

/-- Items with a separator between them. -/
def separated (separator : List Char) : List (List Char) → List Char
  | [] => []
  | [item] => item
  | item :: more => item ++ separator ++ separated separator more

mutual

def printLine : Json → List Char
  | .null => "null".toList
  | .bool value => (if value then "true" else "false").toList
  | .integer value => Decimal.integer value
  | .double value => value.text doubleWords
  | .string text => printString text
  | .array items => '[' :: separated [',', ' '] (lineItems items) ++ [']']
  | .object members => '\x7b' :: separated [',', ' '] (lineMembers members) ++ ['\x7d']

/-- The items of an array, each on one line. -/
def lineItems : List Json → List (List Char)
  | [] => []
  | item :: more => printLine item :: lineItems more

/-- The members of an object, each on one line. -/
def lineMembers : List (List CodePoint × Json) → List (List Char)
  | [] => []
  | (key, value) :: more => (printString key ++ ':' :: ' ' :: printLine value) :: lineMembers more

end

/-- A line break and the indentation of a depth. -/
def newLine (depth : Nat) : List Char := '\n' :: List.replicate (2 * depth) ' '

/-- Items on lines of their own between brackets. -/
def printBlock (opening closing : Char) (depth : Nat) (items : List (List Char)) : List Char :=
  if items.isEmpty then [opening, closing]
  else
    opening :: newLine (depth + 1) ++ separated (',' :: newLine (depth + 1)) items ++
      newLine depth ++ [closing]

mutual

/-- A value whose items stand on lines of their own, inside as many brackets as the depth says. -/
def printLines (depth : Nat) : Json → List Char
  | .null => "null".toList
  | .bool value => (if value then "true" else "false").toList
  | .integer value => Decimal.integer value
  | .double value => value.text doubleWords
  | .string text => printString text
  | .array items => printBlock '[' ']' depth (blockItems (depth + 1) items)
  | .object members => printBlock '\x7b' '\x7d' depth (blockMembers (depth + 1) members)

def blockItems (depth : Nat) : List Json → List (List Char)
  | [] => []
  | item :: more => printLines depth item :: blockItems depth more

/-- The members of an object at a depth. -/
def blockMembers (depth : Nat) : List (List CodePoint × Json) → List (List Char)
  | [] => []
  | (key, value) :: more =>
    (printString key ++ ':' :: ' ' :: printLines depth value) :: blockMembers depth more

end

end Schemagram.Json
