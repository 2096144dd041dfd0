import Schemagram.Scan
import Schemagram.Binding
import Schemagram.Dialect.Markers
import Schemagram.Text.Piece

/-!
# The SQL dialect

`CREATE TYPE … AS ENUM` and `CREATE TABLE` statements, found wherever they stand in a text.

The body of a table ends at the first closing parenthesis after which a semicolon comes before
another closing parenthesis.  It is cut at every comma; each fragment is a foreign key, a column, or
nothing.  So a type with two sizes is cut in two, and its second part is read as a column of its
own.
-/

namespace Schemagram.Sql

open Scan
open Text (isWord)

/-- The back-tick, which may surround a name. -/
def backTick : Char := Char.ofNat 96

/-- A name that may stand between back-ticks or double quotes. -/
def quotedName : Scan String := do
  optionally (do let _ ← one fun char => char = backTick || char = '"')
  let name ← word
  optionally (do let _ ← one fun char => char = backTick || char = '"')
  return name

/-! ### Enums -/

/-- A text between single quotes, with its quotes. -/
def quotedMember : Scan (List Char) := do
  mark '\''
  let inside ← run (· ≠ '\'')
  mark '\''
  return '\'' :: inside ++ ['\'']

/-- A comma and a further member. -/
def nextMember : Scan (List Char) := do
  let before ← run Text.isSpace
  mark ','
  let after ← run Text.isSpace
  let member ← quotedMember
  return before ++ ',' :: after ++ member

/-- The written members of an enum: quoted texts with commas between them. -/
def memberList : Scan (List Char) := do
  let first ← quotedMember
  let more ← many nextMember
  return first ++ more.flatten

/-- A `CREATE TYPE` statement that declares an enum: its name and its written members. -/
def enumStatement : Scan (String × List Char) := do
  keyword "CREATE"
  someSpaces
  keyword "TYPE"
  someSpaces
  let name ← word
  someSpaces
  keyword "AS"
  someSpaces
  keyword "ENUM"
  spaces
  mark '('
  spaces
  let members ← memberList
  spaces
  mark ')'
  return (name, members)

/-- A member without white space around it and without the quotes at its ends. -/
def unquoteMember (piece : List Char) : List Char :=
  let trimmed := Text.trim piece
  let opened := if trimmed.head? = some '\'' then trimmed.drop 1 else trimmed
  if opened.getLast? = some '\'' then opened.dropLast else opened

/-- The members of an enum: the nonempty pieces between commas. -/
def membersOf (written : List Char) : List String :=
  (((Text.splitOn ',' written).map unquoteMember).filter (!·.isEmpty)).map String.ofList

def enums (text : List Char) : Enums :=
  Keyed.ofPairs ((all enumStatement text).map fun (name, written) => (name, membersOf written))

/-! ### Tables -/

/-- What follows the next semicolon, unless a closing parenthesis comes before it. -/
def afterSemicolon? : List Char → Option (List Char)
  | [] => none
  | char :: rest =>
    if char = ';' then some rest else if char = ')' then none else afterSemicolon? rest

/-- The body of a table up to its closing parenthesis, and what follows the statement. -/
def body : Scan (List Char)
  | [] => none
  | char :: rest =>
    match if char = ')' then afterSemicolon? rest else none with
    | some after => some ([], after)
    | none => (body rest).map fun (inside, after) => (char :: inside, after)

/-- A `CREATE TABLE` statement: its name and its body. -/
def tableStatement : Scan (String × List Char) := do
  keyword "CREATE"
  someSpaces
  keyword "TABLE"
  someSpaces
  let name ← quotedName
  spaces
  mark '('
  let inside ← body
  return (name, inside)

/-- The beginning of a foreign key clause. -/
def foreignKeyword : Scan Unit :=
  (do
    keyword "FOREIGN"
    someSpaces
    keyword "KEY") <|> keyword "FK"

/-- A name in parentheses, with white space around and inside them. -/
def inParentheses : Scan String := do
  spaces
  mark '('
  spaces
  let name ← quotedName
  spaces
  mark ')'
  return name

def foreignKey : Scan ForeignKey := do
  foreignKeyword
  let column ← inParentheses
  spaces
  keyword "REFERENCES"
  someSpaces
  let table ← quotedName
  let referenced ← inParentheses
  return { column, referenceTable := table, referenceColumn := referenced }

/-- One of two keywords, as it is written; empty when neither follows. -/
def marker (long short : String) : Scan (List Char) := do
  spaces
  (Prod.fst <$> withText (keyword long <|> keyword short)) <|> pure []

/-- A column: its name, its type, and the markers that may follow in this order. -/
def column : Scan Column := do
  let name ← quotedName
  someSpaces
  let type ← type (precision secondDigits)
  let notNull ← marker "NOT NULL" "NN"
  let primaryKey ← marker "PRIMARY KEY" "PK"
  return {
    name, type
    isPrimaryKey := Markers.isPrimaryKey primaryKey ||
      "pk_".toList.isPrefixOf (Text.lower name.toList)
    isNullable := !Markers.isNotNull notNull }

/-- What a fragment of a body declares. -/
inductive Fragment where
  | ofKey (key : ForeignKey)
  | ofColumn (column : Column)
  | nothing

/-- Reads a fragment: a foreign key wherever it stands in it, else a column. -/
def fragmentOf (fragment : List Char) : Fragment :=
  match search foreignKey fragment with
  | some key => .ofKey key
  | none =>
    match search column fragment with
    | some column => .ofColumn column
    | none => .nothing

def fragments (body : List Char) : List Fragment :=
  (Text.splitOn ',' body).map fun piece => fragmentOf (Text.trim piece)

def Fragment.key? : Fragment → Option ForeignKey
  | .ofKey key => some key
  | _ => none

def Fragment.column? : Fragment → Option Column
  | .ofColumn column => some column
  | _ => none

def tableOf (name : String) (body : List Char) : Table :=
  let found := fragments body
  { name, columns := found.filterMap Fragment.column?,
    foreignKeys := found.filterMap Fragment.key? }

/-- The tables of a text as they are written. -/
def tables (text : List Char) : List Table :=
  (all tableStatement text).map fun (name, body) => tableOf name body

def parse (text : List Char) : Logged (List Table) := do
  let read := tables text
  Logged.report (.tablesRead .sql read.length)
  Table.settle (enums text) read

end Schemagram.Sql
