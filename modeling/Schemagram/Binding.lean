import Schemagram.Keyed
import Schemagram.Event

/-!
# Binding keys and enums to tables

References name tables by name, and of several tables with one name the first counts.  Keys are
attached while a text is read, and those that lead nowhere are dropped when every table is known, so
that a reference may stand before or after the table it names.  Enums are attached last.
-/

namespace Schemagram

/-- Changes the first item that a test accepts; no result when it accepts none. -/
def changeFirst? {Item : Type} (accepts : Item → Bool) (change : Item → Option Item) :
    List Item → Option (List Item)
  | [] => none
  | item :: rest =>
    if accepts item then (change item).map (· :: rest)
    else (changeFirst? accepts change rest).map (item :: ·)

namespace Table

/-- The first table of a name. -/
def find? (tables : List Table) (name : String) : Option Table := tables.find? (·.name = name)

/-- The place of the first table of a name. -/
def findIdx? (tables : List Table) (name : String) : Option Nat :=
  tables.findIdx? (·.name = name)

def withKey (key : ForeignKey) (table : Table) : Table :=
  { table with foreignKeys := table.foreignKeys ++ [key] }

/-- Adds a key at the end of the first table of a name; no result when there is none. -/
def attach? (tables : List Table) (owner : String) (key : ForeignKey) : Option (List Table) :=
  changeFirst? (·.name = owner) (fun table => some (table.withKey key)) tables

/-- Adds a key at the end of the first table of a name, or reports it. -/
def attach (tables : List Table) (owner : String) (key : ForeignKey) : Logged (List Table) :=
  match attach? tables owner key with
  | some attached => ⟨attached, []⟩
  | none => ⟨tables, [.keyDropped owner key .unknownTable]⟩

/-- Why a key leads nowhere among the tables, if it does. -/
def unresolved? (tables : List Table) (key : ForeignKey) : Option Unresolved :=
  match find? tables key.referenceTable with
  | none => some .unknownTable
  | some table =>
    if table.columns.any (·.name = key.referenceColumn) then none else some .unknownColumn

/-- The events for the keys of a table that lead nowhere among the tables. -/
def danglingEvents (tables : List Table) (table : Table) : List Event :=
  table.foreignKeys.filterMap fun key =>
    (unresolved? tables key).map (Event.keyDropped table.name key)

/-- A table with those of its keys that lead somewhere among the tables. -/
def withoutDangling (tables : List Table) (table : Table) : Table :=
  { table with foreignKeys := table.foreignKeys.filter fun key => (unresolved? tables key).isNone }

/-- Drops and reports every key that leads nowhere. -/
def dropDangling (tables : List Table) : Logged (List Table) :=
  ⟨tables.map (withoutDangling tables), tables.flatMap (danglingEvents tables)⟩

end Table

/-- A column that knows whether its type is an enum.  The members stay when the type is none. -/
def Column.withEnum (enums : Enums) (column : Column) : Column :=
  match Keyed.get? column.type enums with
  | some members => { column with isEnum? := some true, enumValues? := some members }
  | none => { column with isEnum? := some false }

/-- A table whose columns know their enums. -/
def Table.withEnums (enums : Enums) (table : Table) : Table :=
  { table with columns := table.columns.map (Column.withEnum enums) }

/-- Tells every column about its enum, and reports the enums if there are any. -/
def Table.attachEnums (enums : Enums) (tables : List Table) : Logged (List Table) :=
  ⟨tables.map (Table.withEnums enums),
    if enums.isEmpty then [] else [.enumsAttached (Keyed.keys enums)]⟩

/-- What every dialect does once all keys are attached: it drops the keys that lead nowhere and
attaches the enums. -/
def Table.settle (enums : Enums) (tables : List Table) : Logged (List Table) := do
  let kept ← Table.dropDangling tables
  Table.attachEnums enums kept

end Schemagram
