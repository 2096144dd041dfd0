import Mathlib.Data.List.Find
import Mathlib.Data.List.Nodup
import Schemagram.Proofs.Tables.Outline
import Schemagram.Proofs.Tables.Settling

/-!
# The order of tables does not matter

Where no two tables share a name, a key leads somewhere among them in whatever order they stand.  So
tables which are given their keys and settled in another order are the same, up to the order of
their keys when the keys are given in another order, too.
-/

namespace Schemagram.Table

theorem find?_perm {tables others : List Table} (perm : tables.Perm others)
    (distinct : (tables.map Table.name).Nodup) (name : String) :
    find? tables name = find? others name := by
  refine List.find?_eq_find?_of_perm perm ?_
  rintro first ⟨memFirst, isFirst⟩ second ⟨memSecond, isSecond⟩
  rw [decide_eq_true_eq] at isFirst isSecond
  exact List.inj_on_of_nodup_map distinct memFirst memSecond (isFirst.trans isSecond.symm)

/-- Whether a key leads somewhere does not depend on the order of the tables. -/
theorem unresolved?_perm {tables others : List Table} (perm : tables.Perm others)
    (distinct : (tables.map Table.name).Nodup) (key : ForeignKey) :
    unresolved? tables key = unresolved? others key := by
  rw [unresolved?, unresolved?, find?_perm perm distinct]

/-- The same table, with its keys in whatever order. -/
structure IsRearranged (table other : Table) : Prop where
  name : other.name = table.name
  columns : other.columns = table.columns
  keys : other.foreignKeys.Perm table.foreignKeys

variable {Item : Type} {items others : List Item} {keys otherKeys : List (String × ForeignKey)}

/-- Tables that are given keys and settled. -/
def completed (enums : Enums) (tables : List Table) (keys : List (String × ForeignKey))
    (table : Table) : Table :=
  settled enums (tables.map (withKeys keys)) (table.withKeys keys)

theorem result_settle_withKeys (enums : Enums) (tables : List Table)
    (keys : List (String × ForeignKey)) :
    (settle enums (tables.map (withKeys keys))).result =
      tables.map (completed enums tables keys) := by
  rw [result_settle, List.map_map]
  rfl

theorem map_outline_withKeys (tables : List Table) (keys : List (String × ForeignKey)) :
    (tables.map (withKeys keys)).map outline = tables.map outline := by
  rw [List.map_map]
  exact List.map_congr_left fun table _ => rfl

/-- A table is completed alike among other tables in another order and by its keys in another
order. -/
theorem isRearranged_completed {tables others : List Table} (perm : tables.Perm others)
    (distinct : (tables.map Table.name).Nodup) (permKeys : keys.Perm otherKeys) (enums : Enums)
    (table : Table) :
    IsRearranged (completed enums tables keys table) (completed enums others otherKeys table) := by
  have sameKeys (key : ForeignKey) : unresolved? (tables.map (withKeys keys)) key =
      unresolved? (others.map (withKeys otherKeys)) key := by
    have distinctOutlines : ((tables.map outline).map Table.name).Nodup := by
      rw [List.map_map]
      exact distinct
    rw [← unresolved?_outline, map_outline_withKeys,
      unresolved?_perm (perm.map outline) distinctOutlines, ← map_outline_withKeys others otherKeys,
      unresolved?_outline]
  refine ⟨rfl, rfl, ?_⟩
  simp only [completed, foreignKeys_settled, sameKeys]
  exact ((permKeys.symm.filter _).map _ |>.append_left _).filter _

end Schemagram.Table
