import Schemagram.Binding
import Schemagram.Diagram.Basic

/-!
# Diagrams that are built

Where rows are not empty every table has a place, so that a diagram is built for every list of
tables.

Entities and relationships are drawn key by key.  What comes out at the end is said at once: every
column has the line of its own with a suffix for each of its keys that resolve, and every key that
resolves has one relationship.  Drawing one key adds to these what the key alone adds, and the
induction is on the keys that are still to be drawn.
-/

namespace Schemagram

/-- The place of the entity with an index where rows are not empty. -/
def Layout.place (layout : Layout) (index : Int) : Position where
  x := layout.margin + index.fmod layout.maxPerRow * layout.xSpacing
  y := layout.margin + index.fdiv layout.maxPerRow * layout.ySpacing

theorem Layout.position_eq_ok {layout : Layout} (hasRows : layout.maxPerRow ≠ 0) (index : Int) :
    layout.position index = .ok (layout.place index) :=
  if_neg hasRows

/-! ### Keys that resolve -/

/-- Whether the column of a key, the table it refers to and the column there all exist. -/
def Table.resolves (tables : List Table) (table : Table) (key : ForeignKey) : Bool :=
  table.columns.any (·.name = key.column) &&
    (find? tables key.referenceTable).any fun target =>
      target.columns.any (·.name = key.referenceColumn)

/-- The place of the first column of a name. -/
def Table.columnIndex (table : Table) (column : String) : Nat :=
  table.columns.findIdx (·.name = column)

/-- The place of the column that a key refers to, in the first table of the name. -/
def ForeignKey.targetIndex (tables : List Table) (key : ForeignKey) : Nat :=
  ((Table.find? tables key.referenceTable).map (·.columnIndex key.referenceColumn)).getD 0

/-- The link of a key that resolves. -/
def ForeignKey.link (tables : List Table) (table : Table) (key : ForeignKey) (keyIndex : Nat) :
    Link :=
  ⟨keyIndex, key, table.columnIndex key.column, key.targetIndex tables⟩

theorem Table.columnIndex?_eq (table : Table) (column : String) :
    table.columnIndex? column =
      if table.columns.any (·.name = column) then some (table.columnIndex column) else none := by
  rw [columnIndex?, columnIndex, List.findIdx?_eq_guard_findIdx_lt, Option.guard]
  simp only [List.findIdx_lt_length, List.any_eq_true, decide_eq_true_eq]

/-- A key has a link exactly if it resolves. -/
theorem Table.link?_eq (tables : List Table) (table : Table) (key : ForeignKey) (keyIndex : Nat) :
    table.link? tables key keyIndex =
      if table.resolves tables key then some (key.link tables table keyIndex) else none := by
  rw [link?, resolves, ForeignKey.link, ForeignKey.targetIndex, find?]
  cases found : tables.find? (·.name = key.referenceTable) with
  | none => simp
  | some target =>
    simp only [columnIndex?_eq, Option.bind_eq_bind, Option.bind_some, Option.any_some,
      Option.map_some, Option.getD_some]
    by_cases hasOwn : table.columns.any (·.name = key.column) = true
    · by_cases hasTarget : target.columns.any (·.name = key.referenceColumn) = true
      · simp [hasOwn, hasTarget]
      · simp [hasOwn, hasTarget]
    · simp [hasOwn]

/-! ### What is drawn -/

/-- The line of a column: its description, and a suffix for each of the given keys whose own column
stands at its place. -/
def Table.line (table : Table) (keys : List ForeignKey) (column : Column) (index : Nat) : String :=
  (keys.filter (table.columnIndex ·.column = index)).foldl
    (fun line key => line ++ " [ref: > " ++ key.referenceTable ++ "." ++ key.referenceColumn ++ "]")
    column.description

/-- The entity of a table where rows are not empty, before its keys are drawn. -/
def Table.undrawn (layout : Layout) (table : Table) (index : Nat) : Entity where
  id := Entity.idOf table.name
  name := table.name
  attributes := table.columns.map Column.description
  position := layout.place index

/-- The keys of a table that resolve, in their order. -/
def Table.resolvedKeys (tables : List Table) (table : Table) : List ForeignKey :=
  table.foreignKeys.filter (table.resolves tables)

/-- The entity of the table with an index where rows are not empty. -/
def Table.placed (layout : Layout) (tables : List Table) (table : Table) (index : Nat) :
    Entity where
  id := Entity.idOf table.name
  name := table.name
  attributes := table.columns.zipIdx.map fun item =>
    table.line (table.resolvedKeys tables) item.1 item.2
  position := layout.place index

/-- The relationship of a key with an index that resolves. -/
def ForeignKey.relationship (tables : List Table) (table : Table) (key : ForeignKey)
    (keyIndex : Nat) :
    Relationship where
  id := "relationship-" ++ table.name ++ "-" ++ Decimal.text keyIndex
  source := ⟨Entity.idOf table.name, table.columnIndex key.column⟩
  target := ⟨Entity.idOf key.referenceTable, key.targetIndex tables⟩
  type := key.relation

/-- The relationships of a table: one for every key that resolves. -/
def Table.relationships (tables : List Table) (table : Table) : List Relationship :=
  (table.foreignKeys.zipIdx.filter fun item => table.resolves tables item.1).map fun item =>
    item.1.relationship tables table item.2

/-- The diagram of tables where rows are not empty. -/
def Diagram.placed (tables : List Table) (source : String) (layout : Layout) : Diagram where
  entities := tables.zipIdx.map fun (table, index) => table.placed layout tables index
  relationships := tables.flatMap (Table.relationships tables)
  enumData := Table.enumData tables
  source

/-! ### Drawing -/

/-- Drawing a key adds its suffix to the line of its column and its relationship, if it resolves. -/
theorem Table.drawKey_eq (tables : List Table) (table : Table) (drawn : Entity × List Relationship)
    (key : ForeignKey) (keyIndex : Nat) :
    table.drawKey tables drawn key keyIndex =
      if table.resolves tables key then
        (drawn.1.extend (table.columnIndex key.column) (key.link tables table keyIndex).suffix,
          drawn.2 ++ [key.relationship tables table keyIndex])
      else drawn := by
  rw [drawKey, link?_eq]
  split
  · rename_i noLink
    rw [if_neg]
    intro resolved
    simp [resolved] at noLink
  · rename_i link isLink
    by_cases resolved : table.resolves tables key = true
    · rw [if_pos resolved] at isLink ⊢
      cases isLink
      rfl
    · rw [if_neg resolved] at isLink
      cases isLink

/-- Drawing one more key extends the line of its column and no other one. -/
theorem Table.modify_lines (table : Table) (before : List ForeignKey) (key : ForeignKey)
    (tables : List Table) (keyIndex : Nat) :
    ((table.columns.zipIdx.map fun item => table.line before item.1 item.2).modify
        (table.columnIndex key.column) (· ++ (key.link tables table keyIndex).suffix)) =
      table.columns.zipIdx.map fun item => table.line (before ++ [key]) item.1 item.2 := by
  apply List.ext_getElem?
  intro index
  rw [List.getElem?_modify, List.getElem?_map, List.getElem?_map, List.getElem?_zipIdx]
  cases atIndex : table.columns[index]? with
  | none => simp
  | some column =>
    by_cases own : table.columnIndex key.column = index
    · simp [own, line, ForeignKey.link, Link.suffix, String.append_assoc]
    · simp [own, line]

/-- What has been drawn when some of the keys of a table have been drawn. -/
theorem Table.foldl_drawKey (tables : List Table) (table : Table) (entity : Entity)
    (relationships : List Relationship) (before : List ForeignKey)
    (items : List (ForeignKey × Nat)) :
    items.foldl (fun drawn item => table.drawKey tables drawn item.1 item.2)
        ({ entity with
            attributes := table.columns.zipIdx.map fun item => table.line before item.1 item.2 },
          relationships) =
      ({ entity with
          attributes := table.columns.zipIdx.map fun item =>
            table.line (before ++ (items.map Prod.fst).filter (table.resolves tables)) item.1
              item.2 },
        relationships ++ (items.filter fun item => table.resolves tables item.1).map fun item =>
          item.1.relationship tables table item.2) := by
  induction items generalizing before relationships with
  | nil => simp
  | cons item more ih =>
    rcases item with ⟨key, keyIndex⟩
    rw [List.foldl_cons, drawKey_eq]
    by_cases resolved : table.resolves tables key = true
    · rw [if_pos resolved, Entity.extend, modify_lines, ih]
      simp [resolved]
    · rw [if_neg resolved, ih]
      simp [resolved]

/-- Drawing all keys of a table makes its entity and its relationships. -/
theorem Table.drawKeys_undrawn (tables : List Table) (table : Table) (layout : Layout) (index : Nat)
    (relationships : List Relationship) :
    table.drawKeys tables (table.undrawn layout index) relationships =
      (table.placed layout tables index, relationships ++ table.relationships tables) := by
  have undrawn : table.undrawn layout index = { table.undrawn layout index with
      attributes := table.columns.zipIdx.map fun item => table.line [] item.1 item.2 } := by
    have lines : table.columns.map Column.description =
        table.columns.zipIdx.map fun item => table.line [] item.1 item.2 := by
      apply List.ext_getElem?
      intro place
      rw [List.getElem?_map, List.getElem?_map, List.getElem?_zipIdx, Option.map_map]
      rfl
    rw [← lines]
    rfl
  rw [drawKeys, undrawn, foldl_drawKey, List.zipIdx_map_fst, List.nil_append]
  rfl

/-- Drawing some of the tables adds their entities and relationships to what has been drawn. -/
theorem Diagram.drawTables_undrawn (tables : List Table) (layout : Layout)
    (items : List (Table × Nat)) :
    drawTables tables (items.map fun item => (item.1, item.1.undrawn layout item.2)) =
      (items.map fun item => item.1.placed layout tables item.2,
        items.flatMap fun item => item.1.relationships tables) := by
  have grown : ∀ (entities : List Entity) (relationships : List Relationship),
      (items.map fun item => (item.1, item.1.undrawn layout item.2)).foldl
          (fun drawn pair => drawTable tables drawn pair.1 pair.2) (entities, relationships) =
        (entities ++ items.map fun item => item.1.placed layout tables item.2,
          relationships ++ items.flatMap fun item => item.1.relationships tables) := by
    induction items with
    | nil => simp
    | cons item more ih =>
      intro entities relationships
      rw [List.map_cons, List.foldl_cons, drawTable, Table.drawKeys_undrawn, ih]
      simp
  exact grown [] []

theorem Table.entity_eq_ok {layout : Layout} (hasRows : layout.maxPerRow ≠ 0) (table : Table)
    (index : Nat) : table.entity layout index = .ok (table.undrawn layout index) := by
  rw [entity, Layout.position_eq_ok hasRows]
  rfl

theorem Diagram.ofTables_eq_ok {layout : Layout} (hasRows : layout.maxPerRow ≠ 0)
    (tables : List Table) (source : String) :
    ofTables tables source layout = .ok (placed tables source layout) := by
  have entities : (tables.zipIdx.mapM fun (table, index) => table.entity layout index) =
      .ok (tables.zipIdx.map fun item => item.1.undrawn layout item.2) := by
    simp only [Table.entity_eq_ok hasRows]
    exact List.mapM_pure
  have pairs : tables.zip (tables.zipIdx.map fun item => item.1.undrawn layout item.2) =
      tables.zipIdx.map fun item => (item.1, item.1.undrawn layout item.2) := by
    have byPlace : (tables.zipIdx.map Prod.fst).zip
        (tables.zipIdx.map fun item => item.1.undrawn layout item.2) =
          tables.zipIdx.map fun item => (item.1, item.1.undrawn layout item.2) := List.zip_map'
    rwa [List.zipIdx_map_fst] at byPlace
  have relationships : (tables.zipIdx.flatMap fun item => item.1.relationships tables) =
      tables.flatMap (Table.relationships tables) := by
    have byPlace := List.flatMap_map Prod.fst (Table.relationships tables) tables.zipIdx
    rw [List.zipIdx_map_fst] at byPlace
    exact byPlace.symm
  have drawn := drawTables_undrawn tables layout tables.zipIdx
  rw [relationships, ← pairs] at drawn
  rw [ofTables, entities]
  simp only [bind, Except.bind, drawn]
  rfl

/-- A diagram is built unless there are tables and no places for them. -/
theorem Diagram.ofTables_eq (tables : List Table) (source : String) (layout : Layout) :
    ofTables tables source layout =
      if layout.maxPerRow = 0 ∧
      tables ≠ [] then .error .emptyRows else .ok (placed tables source layout) := by
  by_cases noRows : layout.maxPerRow = 0
  · cases tables with
    | nil =>
      rw [if_neg (by simp)]
      rfl
    | cons table more =>
      have noPlace : table.entity layout 0 = .error .emptyRows := by
        rw [Table.entity, Layout.position, if_pos noRows]
        rfl
      simp [ofTables, noRows, noPlace]
      rfl
  · simp [noRows, ofTables_eq_ok noRows]

theorem Diagram.names_placed (tables : List Table) (source : String) (layout : Layout) :
    (placed tables source layout).entities.map Entity.name = tables.map Table.name := by
  have byPlace : tables.map Table.name = (tables.zipIdx.map Prod.fst).map Table.name := by
    rw [List.zipIdx_map_fst]
  rw [byPlace, placed, List.map_map, List.map_map]
  rfl

end Schemagram
