import Schemagram.Text.CharClass
import Schemagram.Text.Hex

/-!
# Quoted text

The form in which a message shows a text: between single quotes, or between double quotes when the
text holds a single quote and no double one; backslash, the quote itself and the three common
controls after a backslash, and every other character that is not shown as itself by its code point
in hexadecimal.
-/

namespace Schemagram.Text

/-- The quote that surrounds a text: single, unless only the double one avoids an escape. -/
def quoteOf (text : List Char) : Char :=
  if text.contains '\'' && !text.contains '"' then '"' else '\''

def quotedChar (quote char : Char) : List Char :=
  if char = quote || char = '\\' then ['\\', char]
  else if char = '\n' then ['\\', 'n']
  else if char = '\r' then ['\\', 'r']
  else if char = '\t' then ['\\', 't']
  else if isPrintable char.toNat then [char]
  else if char.toNat < 0x100 then '\\' :: 'x' :: hexDigits 2 char.toNat
  else if char.toNat < 0x10000 then '\\' :: 'u' :: hexDigits 4 char.toNat
  else '\\' :: 'U' :: hexDigits 8 char.toNat

/-- A text between quotes, as messages show it. -/
def quoted (text : List Char) : List Char :=
  let quote := quoteOf text
  quote :: text.flatMap (quotedChar quote) ++ [quote]

/-- A string between quotes, as messages show it. -/
def quote (text : String) : String := String.ofList (quoted text.toList)

end Schemagram.Text
