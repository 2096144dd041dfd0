import Schemagram.Dialect.Column

/-!
# The shorthand dialect

Enum blocks with members between commas, and table blocks with one column on a line.  A reference is
written on a line of a table, in the options of a column, or between two dotted columns anywhere in
the text.  Inside a table only `>` makes a key; between dotted columns the arrow points to the
column that is referred to.
-/

namespace Schemagram.Shorthand

open Scan

/-! ### Enums -/

/-- The members of an enum block: the nonempty pieces between commas, without quotes. -/
def membersOf (inside : List Char) : List String :=
  (((Text.splitOn ',' inside).map fun piece =>
    (Text.trim piece).filter fun char => char ≠ '\'' && char ≠ '"').filter (!·.isEmpty)).map
      String.ofList

def enums (text : List Char) : Enums :=
  Keyed.ofPairs ((all (block (keyword "enum")) text).map fun (name, inside) =>
    (name, membersOf inside))

/-! ### References inside a table -/

/-- An arrow between a referring and a referred column. -/
def arrow : Scan Char := one fun char => char = '<' || char = '>'

/-- The word that may introduce a reference. -/
def introduction : Scan Unit := optionally (keyword "ref:" <|> keyword "fk:")

/-- An arrow and the column it points to or from. -/
structure Target where
  arrow : Char
  table : String
  column : String

/-- An arrow with white space around it, and the dotted column behind it. -/
def target : Scan Target := do
  spaces
  let arrow ← arrow
  spaces
  let (table, column) ← dotted
  return ⟨arrow, table, column⟩

/-- A reference on a line of its own: the referring column, an arrow and the other column. -/
def inlineReference : Scan (String × Target) := do
  introduction
  spaces
  let column ← word
  let target ← target
  return (column, target)

/-- A reference in the options of a column. -/
def optionReference : Scan Target := do
  keyword "ref" <|> keyword "fk"
  spaces
  mark ':'
  target

/-- The key that a reference inside a table makes: only one that points to the other column does. -/
def keyOf? (column : String) (target : Target) : Option ForeignKey :=
  if target.arrow = '>' then
    some {
      column, referenceTable := target.table, referenceColumn := target.column
      relation? := some .oneToMany }
  else none

/-- The key of a line: a reference that names its column comes before one in the options of the
column on that line. -/
def lineKey? (line : List Char) (column? : Option Column) : Option ForeignKey :=
  match search inlineReference line with
  | some (column, target) => keyOf? column target
  | none => do
    let column ← column?
    let target ← search optionReference line
    keyOf? column.name target

def column? (line : List Char) : Option Column := columnOf (precision (pure [])) line

/-- The table of a block.  A line can declare a column, a key, both or nothing. -/
def tableOf (name : String) (inside : List Char) : Table :=
  let lines := linesOf inside
  { name
    columns := lines.filterMap column?
    foreignKeys := lines.filterMap fun line => lineKey? line (column? line) }

/-- The tables of a text with the keys that stand inside them. -/
def tables (text : List Char) : List Table :=
  (all (block (exactly "Table")) text).map fun (name, inside) => tableOf name inside

/-! ### References between tables -/

/-- A reference between two dotted columns. -/
structure Reference where
  left : String × String
  arrow : Char
  right : String × String

/-- A reference between two dotted columns. -/
def reference : Scan Reference := do
  introduction
  spaces
  let left ← dotted
  spaces
  let arrow ← arrow
  spaces
  let right ← dotted
  return ⟨left, arrow, right⟩

/-- The references of a text, each as it is written. -/
def references (text : List Char) : List (List Char × Reference) := all (withText reference) text

/-- The column that refers. -/
def Reference.source (reference : Reference) : String × String :=
  if reference.arrow = '>' then reference.left else reference.right

/-- The column that is referred to. -/
def Reference.target (reference : Reference) : String × String :=
  if reference.arrow = '>' then reference.right else reference.left

def Reference.key (reference : Reference) : ForeignKey :=
  { column := reference.source.2
    referenceTable := reference.target.1
    referenceColumn := reference.target.2
    relation? := some .oneToMany }

/-- Attaches the key of a reference when both of its tables are known, and reports it when not. -/
def attach (tables : List Table) (written : List Char × Reference) : Logged (List Table) :=
  let reference := written.2
  if (Table.find? tables reference.left.1).isSome &&
    (Table.find? tables reference.right.1).isSome then
    Table.attach tables reference.source.1 reference.key
  else ⟨tables, [.referenceDropped (String.ofList (Text.trim written.1))]⟩

/-- Reads a text in the shorthand dialect. -/
def parse (text : List Char) : Logged (List Table) := do
  let enums := enums text
  let read := tables text
  Logged.report (.tablesRead .shorthand read.length)
  let attached ← (references text).foldlM attach read
  Table.settle enums attached

end Schemagram.Shorthand
