import Schemagram.Proofs.Tables.Sound

/-!
# Attaching keys and enums to complete tables

When no two tables share a name, attaching keys one after the other gives every table the keys of
its name, in their order.  When every key leads somewhere and every column is what its type says
about the enums, settling restores the tables as they were before their enums were left open.
-/

namespace Schemagram

namespace Table

/-! ### Keys -/

/-- A table with those of the keys whose owner has its name, behind its own. -/
def withKeys (keys : List (String × ForeignKey)) (table : Table) : Table :=
  { table with
    foreignKeys := table.foreignKeys ++
      (keys.filter fun (owner, _) => owner = table.name).map Prod.snd }

/-- One more key is attached to the table of its owner, and to no other one. -/
theorem withKeys_cons (owner : String) (key : ForeignKey) (keys : List (String × ForeignKey))
    (table : Table) : table.withKeys ((owner, key) :: keys) =
      (if table.name = owner then table.withKey key else table).withKeys keys := by
  by_cases isOwner : table.name = owner
  · simp [withKeys, withKey, isOwner]
  · simp [withKeys, isOwner, Ne.symm isOwner]

theorem getD_attach? {tables : List Table} (distinct : (tables.map Table.name).Nodup)
    (owner : String) (key : ForeignKey) : (attach? tables owner key).getD tables =
      tables.map fun table => if table.name = owner then table.withKey key else table := by
  rw [attach?, getD_changeFirst? distinct]
  rfl

/-- A key is attached to the one table of its owner's name. -/
theorem result_attach_of_distinct {tables : List Table} (distinct : (tables.map Table.name).Nodup)
    (owner : String) (key : ForeignKey) : (attach tables owner key).result =
      tables.map fun table => if table.name = owner then table.withKey key else table := by
  rw [← getD_attach? distinct, attach]
  cases attach? tables owner key <;> rfl

/-- Attaching keys one after the other gives every table the keys of its name. -/
theorem foldl_attach {tables : List Table} (distinct : (tables.map Table.name).Nodup)
    (keys : List (String × ForeignKey)) :
    keys.foldl (fun tables pair => (attach tables pair.1 pair.2).result) tables =
      tables.map (withKeys keys) := by
  induction keys generalizing tables with
  | nil =>
    have none : withKeys [] = id := by
      funext table
      simp [withKeys]
    rw [List.foldl_nil, none, List.map_id]
  | cons pair more ih =>
    have sameNames : (tables.map fun table => if table.name = pair.1 then table.withKey pair.2
        else table).map
        Table.name = tables.map Table.name := by
      rw [List.map_map]
      refine List.map_congr_left fun table _ => ?_
      rw [Function.comp_apply]
      split <;> rfl
    rw [List.foldl_cons, result_attach_of_distinct distinct, ih (by rwa [sameNames]), List.map_map]
    exact List.map_congr_left fun table _ => (withKeys_cons pair.1 pair.2 more table).symm

end Table

/-! ### Enums -/

/-- A column whose enum is the one that its type names. -/
structure Column.IsOf (enums : Enums) (column : Column) : Prop where
  isEnum : column.isEnum? = some (Keyed.get? column.type enums).isSome
  enumValues : column.enumValues? = Keyed.get? column.type enums

theorem Column.IsOf.withEnum_withoutEnum {enums : Enums} {column : Column}
    (isOf : column.IsOf enums) :
    column.withoutEnum.withEnum enums = column := by
  have isEnum := isOf.isEnum
  have enumValues := isOf.enumValues
  cases column with
  | mk name type isPrimaryKey isNullable isEnum? enumValues? =>
    simp only [Column.withEnum, Column.withoutEnum] at isEnum enumValues ⊢
    rw [isEnum, enumValues]
    cases Keyed.get? type enums <;> rfl

/-- Settling gives the columns of a table their enums back, and keeps its keys. -/
theorem Table.settled_withoutEnums {enums : Enums} {tables : List Table} {table : Table}
    (columns : ∀ column ∈ table.columns, column.IsOf enums)
    (keys : ∀ key ∈ table.foreignKeys, key.Leads tables) :
    Table.settled enums (tables.map Table.withoutEnums) table.withoutEnums = table := by
  have sameColumns : (table.columns.map Column.withoutEnum).map (Column.withEnum enums) =
      table.columns := by
    rw [List.map_map]
    conv => rhs; rw [← List.map_id table.columns]
    exact List.map_congr_left fun column mem => (columns column mem).withEnum_withoutEnum
  have sameKeys : (table.foreignKeys.filter fun key =>
      (Table.unresolved? (tables.map Table.withoutEnums) key).isNone) = table.foreignKeys := by
    rw [List.filter_eq_self]
    intro key mem
    have keepsName : ∀ table : Table, table.withoutEnums.name = table.name := fun _ => rfl
    have keepsNames : ∀ table : Table, (table.withoutEnums.columns).map Column.name =
        table.columns.map Column.name := by
      intro table
      simp [Table.withoutEnums, Column.withoutEnum]
    rw [Table.unresolved?_map keepsName keepsNames, Table.unresolved?_eq_none.2 (keys key mem)]
    rfl
  cases table with
  | mk name columns keys =>
    simp only [Table.settled, Table.withEnums, Table.withoutDangling, Table.withoutEnums]
      at sameColumns sameKeys ⊢
    rw [sameColumns, sameKeys]

/-- Complete tables whose enums were left open are restored by settling. -/
theorem Table.settle_withoutEnums {enums : Enums} {tables : List Table}
    (columns : ∀ table ∈ tables, ∀ column ∈ table.columns, column.IsOf enums)
    (keys : ∀ table ∈ tables, ∀ key ∈ table.foreignKeys, key.Leads tables) :
    (Table.settle enums (tables.map Table.withoutEnums)).result = tables := by
  rw [Table.result_settle, List.map_map]
  conv => rhs; rw [← List.map_id tables]
  exact List.map_congr_left fun table mem =>
    Table.settled_withoutEnums (columns table mem) (keys table mem)

end Schemagram
