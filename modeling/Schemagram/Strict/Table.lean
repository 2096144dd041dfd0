import Schemagram.Binding
import Schemagram.Strict.Grammar

/-!
# Tables of the strict grammar

What the declarations of a text spell: its tables, its references in the order in which they are
written, and its enums.  A reference is bound to its column only when all tables are known, so that
declarations may stand in any order.

`parse?` reads a whole text; it has no result when the text does not match the grammar.
-/

namespace Schemagram.Strict

structure Column where
  name : String
  type : String
  isPrimaryKey : Bool
  isNullable : Bool
  note? : Option String := none
  /-- The dotted path of the column that this one refers to. -/
  foreignKey? : Option String := none
  foreignKeyName? : Option String := none
  enumValues? : Option (List String) := none
  deriving DecidableEq, Repr

/-- A table of the strict grammar. -/
structure Table where
  name : String
  columns : List Column
  alias? : Option String := none
  note? : Option String := none
  deriving DecidableEq, Repr

/-- A reference between two dotted paths; the source is the column that gets the foreign key.  An
empty name stands for none. -/
structure Reference where
  name : String
  source : String
  target : String
  deriving DecidableEq, Repr

/-! ### What declarations spell -/

def Column.withProperty (column : Column) : Property → Column
  | .primaryKey => { column with isPrimaryKey := true }
  | .notNull => { column with isNullable := false }
  | .note text => { column with note? := some text }
  | .reference _ _ => column

def ColumnDeclaration.toColumn (declaration : ColumnDeclaration) : Column :=
  declaration.properties.foldl Column.withProperty
    { name := declaration.name, type := declaration.type.text, isPrimaryKey := false,
      isNullable := true }

/-- The reference between two paths with an arrow between them. -/
def Reference.ofArrow (name : String) (left : Path) (arrow : Arrow) (right : Path) : Reference :=
  match arrow with
  | .left => ⟨name, left.text, right.text⟩
  | .right => ⟨name, right.text, left.text⟩

/-- The references among the properties of a column. -/
def ColumnDeclaration.references (table : String) (declaration : ColumnDeclaration) :
    List Reference :=
  declaration.properties.filterMap fun
    | .reference arrow other => some (.ofArrow "" ⟨table, declaration.name⟩ arrow other)
    | _ => none

/-- The column of an entry that is no note. -/
def TableEntry.column? : TableEntry → Option ColumnDeclaration
  | .note _ => none
  | .column declaration => some declaration

def TableEntry.note? : TableEntry → Option String
  | .note text => some text
  | .column _ => none

namespace Declaration

def table? : Declaration → Option Table
  | .table name alias? entries =>
    some {
      name, alias?
      columns := (entries.filterMap TableEntry.column?).map ColumnDeclaration.toColumn
      note? := entries.findSome? TableEntry.note? }
  | _ => none

/-- The references of a declaration, in the order in which they are written. -/
def references : Declaration → List Reference
  | .table name _ entries =>
    (entries.filterMap TableEntry.column?).flatMap (ColumnDeclaration.references name)
  | .enum _ _ => []
  | .reference name? left arrow right => [.ofArrow (name?.getD "") left arrow right]

def enum? : Declaration → Option (String × List String)
  | .enum name members => some (name, members)
  | _ => none

end Declaration

/-! ### Binding references and enums -/

/-- The first dot cuts a dotted path into a table and a column. -/
def Path.ofText (text : String) : Path :=
  let chars := text.toList
  ⟨String.ofList (chars.takeWhile (· ≠ '.')), String.ofList ((chars.dropWhile (· ≠ '.')).drop 1)⟩

/-- Writes a reference onto a column; a nonempty name goes with it. -/
def Column.bind (reference : Reference) (column : Column) : Column :=
  { column with
    foreignKey? := some reference.target
    foreignKeyName? := if reference.name.isEmpty then column.foreignKeyName?
      else some reference.name }

/-- Binds a reference to the column that its source names: the first of that name in the first table
of that name. -/
def bind? (tables : List Table) (reference : Reference) : Option (List Table) :=
  let source := Path.ofText reference.source
  changeFirst? (·.name = source.table)
    (fun table =>
      (changeFirst? (·.name = source.column) (fun column => some (column.bind reference))
        table.columns).map fun columns => { table with columns })
    tables

/-- Binds a reference, or reports it. -/
def bind (tables : List Table) (reference : Reference) : Logged (List Table) :=
  match bind? tables reference with
  | some bound => ⟨bound, []⟩
  | none => ⟨tables, [.sourceMissing reference.source reference.target]⟩

/-- Binds the references in order; the last one for a column wins. -/
def bindAll (tables : List Table) (references : List Reference) : Logged (List Table) :=
  references.foldlM bind tables

/-- A column with the members of the enum that its type names. -/
def Column.withEnum (enums : Enums) (column : Column) : Column :=
  match Keyed.get? column.type enums with
  | some members => { column with enumValues? := some members }
  | none => column

/-- The tables with the members of their enums. -/
def withEnums (enums : Enums) (tables : List Table) : List Table :=
  tables.map fun table => { table with columns := table.columns.map (Column.withEnum enums) }

/-! ### Whole texts -/

def declarations (text : String) : Except Mismatch (List Declaration) :=
  let read := Tokens.ofString text
  match read.stopped? with
  | some mismatch => .error mismatch
  | none => (Grammar.schema text.length read.tokens).map Prod.fst

/-- The tables that declarations spell, with references and enums bound. -/
def tablesOf (declarations : List Declaration) : Logged (List Table) := do
  let bound ← bindAll (declarations.filterMap Declaration.table?)
    (declarations.flatMap Declaration.references)
  return withEnums (Keyed.ofPairs (declarations.filterMap Declaration.enum?)) bound

/-- The tables of a text, if it matches the grammar. -/
def parse? (text : String) : Logged (Option (List Table)) :=
  match declarations text with
  | .error mismatch => ⟨none, [.grammarMismatch mismatch]⟩
  | .ok found => do
    let tables ← tablesOf found
    return some tables

end Schemagram.Strict
