import Schemagram.Dialect.Column

/-!
# The DBML dialect

Enum blocks with one member on a line, table blocks with one column on a line, and references `ref:`
between two columns, found wherever they stand in a text.  The key of a reference always belongs to
the column on the right; only the relation type depends on the arrow.
-/

namespace Schemagram.Dbml

open Scan

/-- A member on a line of its own: quotes and one comma at the end are no part of it. -/
def memberOf (line : List Char) : List Char :=
  let bare := (Text.trim line).filter fun char => char ≠ '\'' && char ≠ '"'
  Text.trim (if bare.getLast? = some ',' then bare.dropLast else bare)

/-- The members of an enum block. -/
def membersOf (inside : List Char) : List String :=
  (((Text.splitOn '\n' inside).map memberOf).filter (!·.isEmpty)).map String.ofList

def enums (text : List Char) : Enums :=
  Keyed.ofPairs ((all (block (keyword "Enum")) text).map fun (name, inside) =>
    (name, membersOf inside))

/-- The columns of a table block. -/
def columnsOf (inside : List Char) : List Column :=
  (linesOf inside).filterMap (columnOf (precision secondDigits))

/-- The tables of a text, without any keys. -/
def tables (text : List Char) : List Table :=
  (all (block (keyword "Table")) text).map fun (name, inside) =>
    { name, columns := columnsOf inside, foreignKeys := [] }

/-- A reference from the column on the right to the one on the left. -/
structure Reference where
  left : String × String
  arrow : Char
  right : String × String

/-- A reference between two columns. -/
def reference : Scan Reference := do
  keyword "ref:"
  spaces
  let left ← dotted
  spaces
  let arrow ← one fun char => char = '<' || char = '-' || char = '>'
  spaces
  let right ← dotted
  return ⟨left, arrow, right⟩

def Reference.key (reference : Reference) : ForeignKey :=
  { column := reference.right.2
    referenceTable := reference.left.1
    referenceColumn := reference.left.2
    relation? := some (if reference.arrow = '-' then .oneToOne else .oneToMany) }

/-- The table that owns the key of a reference. -/
def Reference.owner (reference : Reference) : String := reference.right.1

def references (text : List Char) : List Reference := all reference text

def parse (text : List Char) : Logged (List Table) := do
  let enums := enums text
  let read := tables text
  Logged.report (.tablesRead .dbml read.length)
  let attached ← (references text).foldlM
    (fun tables reference => Table.attach tables reference.owner reference.key) read
  Table.settle enums attached

end Schemagram.Dbml
