import Schemagram.Proofs.Tables.Sound

/-!
# The outline of tables

Binding changes the keys and the enums of tables and keeps their outline: their order, their names,
and the names, the types and the flags of their columns.  Whether a key leads somewhere is a matter
of the outline, so that no binding has a bearing on it.
-/

namespace Schemagram

@[simp]
theorem Column.withoutEnum_withEnum (enums : Enums) (column : Column) :
    (column.withEnum enums).withoutEnum = column.withoutEnum := by
  unfold withEnum
  split <;> rfl

namespace Table

/-- The name of a table, and the names, the types and the flags of its columns. -/
def outline (table : Table) : Table := { table.withoutEnums with foreignKeys := [] }

@[simp]
theorem outline_withKey (key : ForeignKey) (table : Table) :
    (table.withKey key).outline = table.outline := rfl

@[simp]
theorem outline_withoutDangling (tables : List Table) (table : Table) :
    (withoutDangling tables table).outline = table.outline := rfl

@[simp]
theorem outline_withEnums (enums : Enums) (table : Table) :
    (table.withEnums enums).outline = table.outline := by
  simp [outline, withoutEnums, withEnums]

/-- Whether a key leads somewhere is seen from the outlines of the tables. -/
theorem unresolved?_outline (tables : List Table) (key : ForeignKey) :
    unresolved? (tables.map outline) key = unresolved? tables key := by
  have keepsName (table : Table) : (outline table).name = table.name := rfl
  refine unresolved?_map keepsName (fun table => ?_) tables key
  simp [outline, withoutEnums, Column.withoutEnum]

theorem leads_congr {tables others : List Table} (same : tables.map outline = others.map outline)
    (key : ForeignKey) : key.Leads tables ↔ key.Leads others := by
  rw [ForeignKey.Leads, ForeignKey.Leads, ← unresolved?_eq_none, ← unresolved?_eq_none,
    ← unresolved?_outline tables, same, unresolved?_outline]

/-- Attaching a key keeps the outlines. -/
theorem outline_attach (tables : List Table) (owner : String) (key : ForeignKey) :
    (attach tables owner key).result.map outline = tables.map outline := by
  rcases result_attach tables owner key with same | ⟨before, table, after, split, attached⟩
  · rw [same]
  · rw [attached, split, List.map_append, List.map_append, List.map_cons, List.map_cons,
      outline_withKey]

/-- What every step keeps, all of them keep. -/
theorem outline_foldlM {Item : Type} {step : List Table → Item → Logged (List Table)}
    (keeps : ∀ tables item, (step tables item).result.map outline = tables.map outline)
    (items : List Item) (tables : List Table) :
    (items.foldlM step tables).result.map outline = tables.map outline := by
  induction items generalizing tables with
  | nil => rfl
  | cons item more ih =>
    rw [List.foldlM_cons, Logged.result_bind]
    exact (ih _).trans (keeps tables item)

end Table

end Schemagram
