import Mathlib.Data.List.Nodup
import Schemagram.Proofs.Diagram.Building
import Schemagram.Text.Piece

/-!
# What a diagram shows

A diagram shows every table with a line for each column, and every key that resolves twice: as a
suffix of the line of its own column and as a relationship.  Tables and columns may share a name,
and keys may lead nowhere; a key that leads nowhere is not shown, but it is counted where keys are
numbered.

Ids are made of names.  The number at the end of the id of a relationship holds no dash, so that the
id tells the name from the number, whatever the name ends in.
-/

namespace Schemagram

open Text

/-! ### Ids -/

theorem Decimal.text_injective : Function.Injective Decimal.text := by
  intro value other same
  have sameDigits : digits value = digits other := String.ofList_injective same
  rw [← ofDigits_digits value, sameDigits, ofDigits_digits]

theorem Entity.idOf_injective : Function.Injective Entity.idOf := by
  intro name other same
  exact String.append_right_inj _ |>.1 same

/-- The id of a relationship tells the table and the number of its key. -/
theorem ForeignKey.id_inj {tables : List Table} {table other : Table} {key otherKey : ForeignKey}
    {keyIndex otherIndex : Nat}
    (same : (key.relationship tables table keyIndex).id =
      (otherKey.relationship tables other otherIndex).id) :
    table.name = other.name ∧ keyIndex = otherIndex := by
  have noDash : ∀ value, ∀ char ∈ Decimal.digits value, Decimal.isDigit char = true :=
    fun value char => Decimal.isDigit_of_mem_digits
  have lastDash : ∀ name : List Char, ∀ char ∈ (name ++ ['-']).getLast?,
      Decimal.isDigit char = false := by
    intro name char mem
    rw [List.getLast?_concat] at mem
    cases mem
    rfl
  have sameChars := congrArg String.toList same
  simp only [relationship, Decimal.text, String.toList_append, String.toList_ofList,
    List.append_assoc, List.append_cancel_left_eq] at sameChars
  have cut : (table.name.toList ++ ['-']) ++ Decimal.digits keyIndex =
      (other.name.toList ++ ['-']) ++ Decimal.digits otherIndex := by
    simpa using sameChars
  have parts := append_run_inj (lastDash _) (lastDash _) (noDash _) (noDash _) cut
  have sameName : table.name.toList = other.name.toList := List.append_cancel_right parts.1
  refine ⟨String.toList_injective sameName, Decimal.text_injective ?_⟩
  rw [Decimal.text, parts.2, Decimal.text]

theorem Table.nodup_relationshipIds (tables : List Table) (table : Table) :
    ((table.relationships tables).map Relationship.id).Nodup := by
  have indices : ((table.foreignKeys.zipIdx.filter fun item => table.resolves tables item.1).map
      Prod.snd).Nodup := by
    refine List.Nodup.sublist (List.filter_sublist.map Prod.snd) ?_
    rw [List.zipIdx_map_snd]
    exact List.nodup_range'
  rw [relationships, List.map_map]
  refine List.Nodup.map_on ?_ (List.Nodup.of_map _ indices)
  intro item mem other memOther same
  have sameIndex : item.2 = other.2 := (ForeignKey.id_inj same).2
  exact List.inj_on_of_nodup_map indices mem memOther sameIndex

/-- Tables of different names have no id of a relationship in common. -/
theorem Table.disjoint_relationshipIds (tables : List Table) {table other : Table}
    (different : table.name ≠ other.name) :
    List.Disjoint ((table.relationships tables).map Relationship.id)
      ((other.relationships tables).map Relationship.id) := by
  intro id mem memOther
  simp only [relationships, List.map_map, List.mem_map, Function.comp_apply] at mem memOther
  rcases mem with ⟨item, _, rfl⟩
  rcases memOther with ⟨second, _, same⟩
  exact different (ForeignKey.id_inj same).1.symm

theorem Diagram.nodup_entityIds {tables : List Table} (distinct : (tables.map Table.name).Nodup)
    (source : String) (layout : Layout) :
    ((placed tables source layout).entities.map Entity.id).Nodup := by
  have ids : (placed tables source layout).entities.map Entity.id =
      ((placed tables source layout).entities.map Entity.name).map Entity.idOf := by
    simp only [placed, List.map_map]
    rfl
  rw [ids, names_placed]
  exact distinct.map Entity.idOf_injective

theorem Diagram.nodup_relationshipIds {tables : List Table}
    (distinct : (tables.map Table.name).Nodup) (source : String) (layout : Layout) :
    ((placed tables source layout).relationships.map Relationship.id).Nodup := by
  rw [placed, List.map_flatMap, List.nodup_flatMap]
  refine ⟨fun table _ => table.nodup_relationshipIds tables, ?_⟩
  have differ : tables.Pairwise fun table other => table.name ≠ other.name :=
    List.pairwise_map.1 distinct
  exact differ.imp (Table.disjoint_relationshipIds tables)

/-! ### What is shown -/

/-- What the diagram of tables shows, whatever their names and their keys: every table is an entity
whose lines describe its columns and name what their resolved keys refer to, every key that resolves
is a relationship, and no id is used twice unless a name of a table is. -/
theorem Diagram.ofTables_shows {layout : Layout} (hasRows : layout.maxPerRow ≠ 0)
    (tables : List Table) (source : String) :
    ∃ diagram, ofTables tables source layout = .ok diagram ∧
      diagram.entities = tables.zipIdx.map (fun item => {
        id := "entity-" ++ item.1.name
        name := item.1.name
        attributes := item.1.columns.zipIdx.map fun column =>
          item.1.line (item.1.resolvedKeys tables) column.1 column.2
        position := layout.place item.2 }) ∧
      diagram.relationships = tables.flatMap (fun table =>
        (table.foreignKeys.zipIdx.filter fun item => table.resolves tables item.1).map fun item => {
          id := "relationship-" ++ table.name ++ "-" ++ Decimal.text item.2
          source := ⟨"entity-" ++ table.name, table.columnIndex item.1.column⟩
          target := ⟨"entity-" ++ item.1.referenceTable, item.1.targetIndex tables⟩
          type := item.1.relation }) ∧
      diagram.source = source ∧
      ((tables.map Table.name).Nodup →
        (diagram.entities.map Entity.id).Nodup ∧
        (diagram.relationships.map Relationship.id).Nodup) :=
  ⟨placed tables source layout, ofTables_eq_ok hasRows tables source, rfl, rfl, rfl, fun distinct =>
    ⟨nodup_entityIds distinct source layout, nodup_relationshipIds distinct source layout⟩⟩

/-- Two tables of one name; the second has a key that leads nowhere and one that is there twice. -/
def Diagram.namesakes : List Table := [
  ⟨"a-1", [⟨"id", "int", true, false, none, none⟩], []⟩,
  ⟨"a-1", [⟨"x", "int", false, true, none, none⟩, ⟨"x", "text", false, true, none, none⟩],
    [⟨"x", "b", "id", none⟩, ⟨"x", "a-1", "id", none⟩, ⟨"x", "a-1", "id", some .oneToOne⟩]⟩]

theorem Diagram.ofTables_shows_namesakes : Layout.standard.maxPerRow ≠ 0 ∧
    ∃ diagram, ofTables namesakes "" Layout.standard = .ok diagram ∧
      diagram.entities.map Entity.attributes = [["PK: id (int) NOT NULL"],
        ["x (int) [ref: > a-1.id] [ref: > a-1.id]", "x (text)"]] ∧
      diagram.relationships = [
        ⟨"relationship-a-1-1", ⟨"entity-a-1", 0⟩, ⟨"entity-a-1", 0⟩, .oneToMany⟩,
        ⟨"relationship-a-1-2", ⟨"entity-a-1", 0⟩, ⟨"entity-a-1", 0⟩, .oneToOne⟩] := by
  have hasRows : Layout.standard.maxPerRow ≠ 0 := by decide
  rcases ofTables_shows hasRows namesakes "" with ⟨diagram, built, entities, relationships, _⟩
  refine ⟨hasRows, diagram, built, ?_, ?_⟩
  · rw [entities]
    decide
  · rw [relationships]
    decide +kernel

end Schemagram
