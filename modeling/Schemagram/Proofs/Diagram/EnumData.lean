import Schemagram.Proofs.Diagram.Building
import Schemagram.Proofs.Keyed
import Schemagram.Proofs.Tables.Session

/-!
# The enums of a diagram

Attaching enums leaves the members of earlier ones on a column whose type is no enum any more, and a
diagram collects members column by column.  Nothing of the earlier enums is collected all the same:
a column counts only if its type is one of the enums that were attached last, and then it has their
members.  So a session may attach whatever enums it likes before; in the end the diagram has the
last ones, as far as columns are of their types.
-/

namespace Schemagram

open Session (Step)

/-- The types of the columns, table by table. -/
def Table.types (tables : List Table) : List String :=
  (tables.flatMap Table.columns).map Column.type

/-- A column shows the enum that its type names, whatever it knew of enums before. -/
theorem Column.enum?_withEnum (enums : Enums) (column : Column) :
    (column.withEnum enums).enum? = Keyed.pair? (fun type => Keyed.get? type enums)
      column.type := by
  cases found : Keyed.get? column.type enums with
  | none => simp [withEnum, enum?, Keyed.pair?, found]
  | some members => simp [withEnum, enum?, Keyed.pair?, found]

namespace Table

theorem types_outline (tables : List Table) : types (tables.map outline) = types tables := by
  simp [types, outline, withoutEnums, Column.withoutEnum, List.flatMap_map, List.map_flatMap,
    Function.comp_def]

theorem types_congr {tables others : List Table} (same : tables.map outline = others.map outline) :
    types tables = types others := by
  rw [← types_outline, same, types_outline]

theorem enumData_withEnums (enums : Enums) (tables : List Table) :
    enumData (tables.map (withEnums enums)) =
    (types tables).eraseDups.filterMap (Keyed.pair? fun type => Keyed.get? type enums) := by
  have shown : ((tables.map (withEnums enums)).flatMap Table.columns).filterMap Column.enum? =
      (types tables).filterMap (Keyed.pair? fun type => Keyed.get? type enums) := by
    induction tables with
    | nil => simp [types]
    | cons table more ih =>
      have own : (table.withEnums enums).columns.filterMap Column.enum? =
          (table.columns.map Column.type).filterMap
          (Keyed.pair? fun type => Keyed.get? type enums) := by
        simp [withEnums, List.filterMap_map, Column.enum?_withEnum]
      simp only [types, List.map_cons, List.flatMap_cons, List.filterMap_append,
        List.map_append] at ih ⊢
      rw [own, ih]
  rw [enumData, shown, Keyed.ofPairs_filterMap_pair?]

end Table

namespace Diagram

/-- Whatever tables know of enums, and whatever enums a session attaches to them, the enums of the
diagram are those that were attached last, restricted to the types of columns and in the order in
which these first appear. -/
theorem enumData_of_session (tables : List Table) (steps : List Step) (enums : Enums)
    (source : String) (layout : Layout) :
    (ofTables (Session.run tables (steps ++ [.attachEnums enums])) source layout).map enumData =
      if layout.maxPerRow = 0 ∧ tables ≠ [] then .error .emptyRows
      else .ok ((Table.types tables).eraseDups.filterMap fun type =>
        (Keyed.get? type enums).map fun members => (type, members)) := by
  have last : Session.run tables (steps ++ [.attachEnums enums]) =
      (Session.run tables steps).map (Table.withEnums enums) := by
    simp only [Session.run, List.foldl_append, List.foldl_cons, List.foldl_nil]
    rfl
  have sameOutline := Session.outline_run tables steps
  have sameTypes := Table.types_congr sameOutline
  have isEmpty : Session.run tables steps = [] ↔ tables = [] := by
    have sameLength := congrArg List.length sameOutline
    simp only [List.length_map] at sameLength
    rw [← List.length_eq_zero_iff, sameLength, List.length_eq_zero_iff]
  rw [last, ofTables_eq]
  by_cases noPlaces : layout.maxPerRow = 0 ∧ tables ≠ []
  · rw [if_pos noPlaces, if_pos]
    · rfl
    · simpa [isEmpty] using noPlaces
  · rw [if_neg noPlaces, if_neg]
    · apply congrArg Except.ok
      apply (Table.enumData_withEnums enums (Session.run tables steps)).trans
      rw [sameTypes]
      rfl
    · simpa [isEmpty] using noPlaces

end Diagram

end Schemagram
