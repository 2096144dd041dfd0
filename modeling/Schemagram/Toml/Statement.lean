import Schemagram.Text.NewLine
import Schemagram.Toml.Nest
import Schemagram.Toml.Scalar

/-!
# TOML statements

A TOML text is read line by line as statements: the head of a table, the head of an item of an array
of tables, or a key and its value.  Strings and arrays may span lines.

Values nest, so reading one takes a number of steps, of which a text allows two for each of its
characters.

Where the reading stops at a number with too many digits, what has been read before it is kept: if
the statements before it, or the members of an inline table before it, do not go together, that
counts first.
-/

namespace Schemagram.Toml

open Scan

inductive Statement where
  | tableHead (path : Path)
  | itemHead (path : Path)
  | member (path : Path) (value : Toml)

/-! ### Comments -/

/-- A comment up to the end of its line, if there is one. -/
def comment : Scan Unit
  | '#' :: rest => do
    let (inside, rest) ← run (· ≠ '\n') rest
    if inside.all isPlain then some ((), rest) else none
  | text => some ((), text)

/-- White space and comments between the items of an array. -/
def gap : Scan Unit := do
  let _ ← many do
    let _ ← run fun char => isBlank char || char = '\n'
    comment

/-! ### Keys -/

/-- Characters of a key without quotes. -/
def isKeyChar (char : Char) : Bool := Text.isBasicAlphanumeric char || char = '-' || char = '_'

def key : Scan String :=
  (do return String.ofList (← someRun isKeyChar)) <|> literalString <|> basicString

/-- Keys with dots between them, and the white space behind them. -/
def path : Scan Path := do
  let first ← key
  blanks
  let more ← many do
    mark '.'
    blanks
    let key ← key
    blanks
    return key
  return first :: more

/-- A path and the equals sign behind it. -/
def pathOfValue : Scan Path := do
  let path ← path
  mark '='
  blanks
  return path

/-! ### Values -/

/-- The table of the members before the end of an inline table, or before the number where it
stops. -/
def inlineTable (pairs : List (Path × Toml)) (excess? : Option Decimal.Excess) :
    Scan (Except Decimal.Excess Toml) := do
  let table ← ofPairs? pairs
  match excess? with
  | some excess => stop excess
  | none => return .ok table

section

variable (limit? : Option Nat)

mutual

/-- A value.  Every call takes one of the steps. -/
def value : (steps : Nat) → Scan (Except Decimal.Excess Toml)
  | 0 => failure
  | steps + 1 =>
    (do mark '['; gap; return (← items steps).map .array) <|>
    (do mark '\x7b'; blanks; mark '\x7d'; return .ok (.table [])) <|>
    (do
      mark '\x7b'
      blanks
      let (pairs, excess?) ← pairs steps
      inlineTable pairs excess?) <|>
    scalar limit?

/-- The items of an array and its closing bracket; a comma may stand behind the last item. -/
def items : (steps : Nat) → Scan (Except Decimal.Excess (List Toml))
  | 0 => failure
  | steps + 1 =>
    (do mark ']'; return .ok []) <|> do
      match ← value steps with
      | .error excess => return .error excess
      | .ok first =>
        gap
        (do mark ']'; return .ok [first]) <|> do
          mark ','
          gap
          return (← items steps).map (first :: ·)

/-- The members of an inline table and its closing brace, or the members before the number where it
stops. -/
def pairs : (steps : Nat) → Scan (List (Path × Toml) × Option Decimal.Excess)
  | 0 => failure
  | steps + 1 => do
    let path ← pathOfValue
    match ← value steps with
    | .error excess => return ([], some excess)
    | .ok first =>
      blanks
      (do mark '\x7d'; return ([(path, first)], none)) <|> do
        mark ','
        blanks
        let (more, excess?) ← pairs steps
        return ((path, first) :: more, excess?)

end

end

/-! ### Lines -/

/-- Statements that are read, and the excess of the number behind them if the reading stops
there. -/
structure Reading where
  statements : List Statement
  excess? : Option Decimal.Excess

def statement (limit? : Option Nat) (steps : Nat) : Scan Reading :=
  (do
    exactly "[["
    blanks
    let path ← path
    exactly "]]"
    return ⟨[.itemHead path], none⟩) <|>
  (do
    absent "[["
    mark '['
    blanks
    let path ← path
    mark ']'
    return ⟨[.tableHead path], none⟩) <|>
  (do
    let path ← pathOfValue
    match ← value limit? steps with
    | .ok value => return ⟨[.member path value], none⟩
    | .error excess => return ⟨[], some excess⟩)

/-- A line up to its end: a statement, or nothing, and perhaps a comment. -/
def line (limit? : Option Nat) (steps : Nat) : Scan Reading := do
  blanks
  let found ← statement limit? steps <|> pure ⟨[], none⟩
  blanks
  comment
  return found

/-- The statements of a text, if it is made of lines, up to a number where the reading stops. -/
def statements? (limit? : Option Nat) (text : List Char) : Option Reading := do
  let text := Text.joinLineEnds text
  let steps := 2 * text.length + 2
  let (lines, rest) ← many (do let found ← line limit? steps; mark '\n'; return found) text
  let (last, rest) ← line limit? steps rest
  if rest.isEmpty then return ⟨(lines.map Reading.statements).flatten ++ last.statements,
    last.excess?⟩
  else none

end Schemagram.Toml
