import Schemagram.Scan
import Schemagram.Binding
import Schemagram.Dialect.Markers
import Schemagram.Text.Piece

/-!
# Column lines

In the block notations a column stands on a line: its name, its type, and options between brackets.
The options run to the last closing bracket of the line.
-/

namespace Schemagram

namespace Scan

/-- The text between an opening bracket and the last closing one. -/
def options : Scan (List Char) := do
  mark '['
  fun rest =>
    let inside := (Text.dropEndWhile (· ≠ ']') rest).dropLast
    if rest.contains ']' then some (inside, rest.drop (inside.length + 1)) else none

/-- A column: a name, a type, and options if there are any. -/
def column (precision : Scan (List Char)) : Scan Column := do
  let name ← word
  someSpaces
  let type ← type precision
  spaces
  let options ← options <|> pure []
  return {
    name, type
    isPrimaryKey := Markers.isPrimaryKey options
    isNullable := !Markers.isNotNull options }

end Scan

/-- The lines of a block without the white space around them; empty ones are left out. -/
def linesOf (inside : List Char) : List (List Char) :=
  ((Text.splitOn '\n' inside).map Text.trim).filter (!·.isEmpty)

/-- The column of a line, wherever it stands in it. -/
def columnOf (precision : Scan (List Char)) (line : List Char) : Option Column :=
  Scan.search (Scan.column precision) line

end Schemagram
