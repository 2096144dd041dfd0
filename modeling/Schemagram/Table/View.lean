import Schemagram.Table
import Schemagram.Screen.View

/-!
# Tables on the screen

How the tables of a schema are shown: one view of the columns of a table, and one of its foreign
keys if it has any.
-/

namespace Schemagram

open Text (points)

/-- A sign where something holds. -/
def Screen.checkMark (isSet : Bool) : String := if isSet then "✓" else ""

/-- The members of a column on the screen. -/
def Column.membersText (column : Column) :
    String := String.intercalate ", " (column.enumValues?.getD [])

def Table.columnsView (table : Table) : Screen.View where
  title := points table.name
  columns := [
    .ofStrings "Column" (table.columns.map Column.name),
    .ofStrings "Type" (table.columns.map Column.type),
    .ofStrings "PK" (table.columns.map fun column => Screen.checkMark column.isPrimaryKey),
    .ofStrings "Nullable" (table.columns.map fun column => Screen.checkMark column.isNullable),
    .ofStrings "Enum values" (table.columns.map Column.membersText)]
  caption? := none

/-- The foreign keys of a table on the screen. -/
def Table.keysView (table : Table) : Screen.View where
  title := points (table.name ++ " foreign keys")
  columns := [
    .ofStrings "Column" (table.foreignKeys.map ForeignKey.column),
    .ofStrings "References"
      (table.foreignKeys.map fun key => key.referenceTable ++ "." ++ key.referenceColumn),
    .ofStrings "Relation" (table.foreignKeys.map fun key => key.relation.text)]
  caption? := none

def Table.views (table : Table) : List Screen.View :=
  if table.foreignKeys.isEmpty then [table.columnsView] else [table.columnsView, table.keysView]

end Schemagram
