import Schemagram.Keyed
import Schemagram.Table
import Schemagram.Decimal.Natural

/-!
# Diagrams

A diagram shows every table as an entity on a grid and every foreign key that leads somewhere as a
relationship between two attributes.

Entities stand in rows from left to right.  A row that holds no entity at all leaves no place for
one, so a diagram with tables needs a layout whose rows are not empty.
-/

namespace Schemagram

/-! ### Layouts -/

/-- Where entities stand: the margin, the distances between neighbours, and how many stand in a
row. -/
structure Layout where
  margin : Int
  xSpacing : Int
  ySpacing : Int
  maxPerRow : Int
  deriving DecidableEq, Repr

/-- The layout of a diagram for which none is chosen. -/
def Layout.standard : Layout := ⟨50, 300, 250, 3⟩

/-- A place on the canvas. -/
structure Position where
  x : Int
  y : Int
  deriving DecidableEq, Repr

/-- A layout whose rows hold no entity has no places. -/
inductive Layout.Fault where
  | emptyRows
  deriving DecidableEq, Repr

def Layout.Fault.message : Layout.Fault → String
  | .emptyRows => "integer division or modulo by zero"

/-- The place of the entity with an index: the row is the quotient rounded down, so that negative
indexes and rows have a place too. -/
def Layout.position (layout : Layout) (index : Int) : Except Layout.Fault Position :=
  if layout.maxPerRow = 0 then .error .emptyRows
  else .ok {
    x := layout.margin + index.fmod layout.maxPerRow * layout.xSpacing
    y := layout.margin + index.fdiv layout.maxPerRow * layout.ySpacing }

/-! ### Diagrams -/

/-- A table on the canvas, with one line of text for each column. -/
structure Entity where
  id : String
  name : String
  attributes : List String
  position : Position
  deriving DecidableEq, Repr

/-- An end of a relationship: an attribute of an entity. -/
structure Endpoint where
  entityId : String
  attributeIndex : Nat
  deriving DecidableEq, Repr

/-- A foreign key on the canvas. -/
structure Relationship where
  id : String
  source : Endpoint
  target : Endpoint
  type : RelationType
  deriving DecidableEq, Repr

/-- A diagram with the enums of its columns and the text that it was made from. -/
structure Diagram where
  entities : List Entity
  relationships : List Relationship
  enumData : Enums
  source : String
  deriving DecidableEq, Repr

/-! ### Columns and keys -/

def Column.description (column : Column) : String :=
  (if column.isPrimaryKey then "PK: " else "") ++ column.name ++ " (" ++ column.type ++ ")" ++
    (if column.isNullable then "" else " NOT NULL")

def Entity.idOf (table : String) : String := "entity-" ++ table

/-- The first place of a column in its table. -/
def Table.columnIndex? (table : Table) (column : String) : Option Nat :=
  table.columns.findIdx? (·.name = column)

/-- A foreign key that leads from a column of its table to a column of a table. -/
structure Link where
  /-- The place of the key among the keys of its table, those that lead nowhere counted. -/
  keyIndex : Nat
  key : ForeignKey
  sourceIndex : Nat
  targetIndex : Nat
  deriving DecidableEq, Repr

/-- The link of a key of a table: its own column, the referenced table and the column there must all
exist. -/
def Table.link? (tables : List Table) (table : Table) (key : ForeignKey) (keyIndex : Nat) :
    Option Link := do
  let target ← tables.find? (·.name = key.referenceTable)
  let sourceIndex ← table.columnIndex? key.column
  let targetIndex ← target.columnIndex? key.referenceColumn
  return ⟨keyIndex, key, sourceIndex, targetIndex⟩

/-- What a link adds to the line of its own column. -/
def Link.suffix (link : Link) : String :=
  " [ref: > " ++ link.key.referenceTable ++ "." ++ link.key.referenceColumn ++ "]"

def Link.relationship (table : Table) (link : Link) : Relationship where
  id := "relationship-" ++ table.name ++ "-" ++ Decimal.text link.keyIndex
  source := ⟨Entity.idOf table.name, link.sourceIndex⟩
  target := ⟨Entity.idOf link.key.referenceTable, link.targetIndex⟩
  type := link.key.relation

/-! ### Building -/

/-- The entity of a table before its keys are drawn: one line for each column. -/
def Table.entity (layout : Layout) (table : Table) (index : Nat) : Except Layout.Fault Entity := do
  let position ← layout.position index
  return {
    id := Entity.idOf table.name
    name := table.name
    attributes := table.columns.map Column.description
    position }

/-- Adds a text at the end of a line of an entity. -/
def Entity.extend (entity : Entity) (index : Nat) (text : String) : Entity :=
  { entity with attributes := entity.attributes.modify index (· ++ text) }

/-- Draws a key of a table: a key that leads somewhere extends the line of its own column and adds a
relationship, any other one changes nothing. -/
def Table.drawKey (tables : List Table) (table : Table) (drawn : Entity × List Relationship)
    (key : ForeignKey) (keyIndex : Nat) : Entity × List Relationship :=
  match table.link? tables key keyIndex with
  | none => drawn
  | some link =>
    (drawn.1.extend link.sourceIndex link.suffix, drawn.2 ++ [link.relationship table])

/-- Draws the keys of a table one after the other on its entity, behind the relationships so far. -/
def Table.drawKeys (tables : List Table) (table : Table) (entity : Entity)
    (relationships : List Relationship) : Entity × List Relationship :=
  table.foreignKeys.zipIdx.foldl (fun drawn item => table.drawKey tables drawn item.1 item.2)
    (entity, relationships)

/-- Draws the keys of a table with its entity, behind the entities and relationships so far. -/
def Diagram.drawTable (tables : List Table) (drawn : List Entity × List Relationship)
    (table : Table) (entity : Entity) : List Entity × List Relationship :=
  let ownDrawn := table.drawKeys tables entity drawn.2
  (drawn.1 ++ [ownDrawn.1], ownDrawn.2)

/-- Draws the keys of tables, each table with its entity. -/
def Diagram.drawTables (tables : List Table) (pairs : List (Table × Entity)) :
    List Entity × List Relationship :=
  pairs.foldl (fun drawn pair => drawTable tables drawn pair.1 pair.2) ([], [])

/-- The type and the members of a column that has an enum. -/
def Column.enum? (column : Column) : Option (String × List String) :=
  if column.isEnum? = some true then column.enumValues?.map fun members => (column.type, members)
  else none

/-- The enums of the columns, in the order in which their types first appear. -/
def Table.enumData (tables : List Table) : Enums :=
  Keyed.ofPairs ((tables.flatMap Table.columns).filterMap Column.enum?)

def Diagram.ofTables (tables : List Table) (source : String) (layout : Layout) :
    Except Layout.Fault Diagram := do
  let entities ← tables.zipIdx.mapM fun (table, index) => table.entity layout index
  let drawn := drawTables tables (tables.zip entities)
  return {
    entities := drawn.1, relationships := drawn.2, enumData := Table.enumData tables, source }

end Schemagram
