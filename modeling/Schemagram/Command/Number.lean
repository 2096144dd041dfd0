import Schemagram.Scan
import Schemagram.Decimal.Natural
import Schemagram.Text.Hex
import Schemagram.Text.Piece

/-!
# Numbers among arguments

What begins with a minus is the name of an option, unless it is a negative number.  Three kinds of
numbers are known: complex numbers, integers with the mark of their base, and slices, which are
integers between colons.  Digits of every script count, and white space around a number does not.
-/

namespace Schemagram.Command.Number

open Scan

/-- A decimal digit of any script as the basic digit of its value, a space of any script as the
blank, and any other character as it is. -/
def basic (char : Char) : Char :=
  if char.toNat < 128 then char
  else if Text.isSpace char then ' '
  else (Text.decimalValue? char).elim char Decimal.digitChar

/-- White space among the basic characters of a number. -/
def isBlank (char : Char) : Bool := char = ' ' || (0x09 ≤ char.toNat && char.toNat ≤ 0x0D)

/-- White space around a number. -/
def blanks : Scan Unit := do
  let _ ← run isBlank

/-- A word of basic letters in any case. -/
def letters (word : String) : Scan Unit :=
  literal (fun expected char => expected = char.toLower) word.toList

/-- A plus or a minus. -/
def sign : Scan Unit := mark '-' <|> mark '+'

/-- Decimal digits in groups. -/
def digits : Scan Unit := do
  let _ ← digitGroups Decimal.isDigit

/-- A real number without its sign. -/
def magnitude : Scan Unit :=
  letters "infinity" <|> letters "inf" <|> letters "nan" <|> do
    (do
      digits
      optionally do
        mark '.'
        optionally digits) <|>
    (do
      mark '.'
      digits)
    optionally do
      letters "e"
      optionally sign
      digits

/-- A complex number: a real part, an imaginary part, or both, the imaginary part last. -/
def complex : Scan Unit := do
  blanks
  optionally sign
  (do
    magnitude
    (do
      sign
      optionally magnitude
      letters "j") <|> optionally (letters "j")) <|> letters "j"
  blanks

/-- Whether a character is a digit in a base of at most sixteen. -/
def isDigitIn (base : Nat) (char : Char) : Bool := (Text.hexValue? char).any (· < base)

/-- The digits of an integer behind the mark of their base. -/
def marked (letter : String) (base : Nat) : Scan Unit := do
  mark '0'
  letters letter
  optionally (mark '_')
  let _ ← digitGroups (isDigitIn base)

/-- An integer in decimal digits, or in base two, eight or sixteen. -/
def integer : Scan Unit := do
  blanks
  optionally sign
  marked "b" 2 <|> marked "o" 8 <|> marked "x" 16 <|> digits
  blanks

/-- Whether a scan takes the whole of a text. -/
def isWhole (scan : Scan Unit) (text : List Char) : Bool :=
  match scan text with
  | some (_, rest) => rest.isEmpty
  | none => false

/-- Two or three bounds between colons; any of them may be left out. -/
def isSlice (text : List Char) : Bool :=
  let bounds := Text.splitOn ':' text
  (bounds.length = 2 || bounds.length = 3) &&
    bounds.all fun bound => isWhole integer bound || isWhole blanks bound

end Number

/-- Whether an argument is a number.  A lone `-j` is none: it is rather meant as a name. -/
def isNumber (argument : String) : Bool :=
  let text := argument.toList.map Number.basic
  text ≠ ['-', 'j'] && text ≠ ['-', 'J'] &&
    (Number.isWhole Number.complex text || Number.isWhole Number.integer text ||
      Number.isSlice text)

end Schemagram.Command
