import Schemagram.Strict.Table
import Schemagram.Table.View

/-!
# Strict tables on the screen

How the tables of the strict grammar are shown: the alias beside the name, and the note of the table
as the caption, unless it is empty.
-/

namespace Schemagram.Strict

open Text (points)

/-- The name of a table with its alias. -/
def Table.title (table : Table) : String :=
  match table.alias? with
  | some short => table.name ++ " (as " ++ short ++ ")"
  | none => table.name

def Table.view (table : Table) : Screen.View where
  title := points table.title
  columns := [
    .ofStrings "Attribute" (table.columns.map Column.name),
    .ofStrings "Type" (table.columns.map Column.type),
    .ofStrings "PK" (table.columns.map fun column => Screen.checkMark column.isPrimaryKey),
    .ofStrings "Nullable" (table.columns.map fun column => Screen.checkMark column.isNullable),
    .ofStrings "Foreign key" (table.columns.map fun column => column.foreignKey?.getD ""),
    .ofStrings "Note" (table.columns.map fun column => column.note?.getD "")]
  caption? := (table.note?.filter (!·.isEmpty)).map points

end Schemagram.Strict
