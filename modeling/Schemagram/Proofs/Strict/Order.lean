import Schemagram.Proofs.Strict.Binding
import Schemagram.Proofs.Strict.Pieces

/-!
# The order of declarations does not matter

When no two tables share a name, no two enums share a name and no two references share a source,
each table is completed by itself, whatever order the declarations stand in.  So the pieces of an
accepted text may be written in any other order: it is accepted again, and every table declaration
gives the same table.
-/

namespace Schemagram.Strict

/-- A table that is declared, completed by the references and the enums among some declarations. -/
def Table.completed (found : List Declaration) (table : Table) : Table :=
  let bound := table.withReferences (found.flatMap Declaration.references)
  { bound with
    columns := bound.columns.map
      (Column.withEnum (Keyed.ofPairs (found.filterMap Declaration.enum?))) }

theorem result_tablesOf_of_distinct {found : List Declaration}
    (distinctTables : ((found.filterMap Declaration.table?).map Table.name).Nodup) :
    (tablesOf found).result = (found.filterMap Declaration.table?).map (Table.completed found) := by
  rw [tablesOf, Logged.result_bind, result_bindAll_of_distinct distinctTables, Logged.result_pure,
    withEnums, List.map_map]
  rfl

/-- Declarations that are read in another order complete every table in the same way. -/
theorem Table.completed_perm {found order : List Declaration} (perm : order.Perm found)
    (distinctEnums : ((found.filterMap Declaration.enum?).map Prod.fst).Nodup)
    (distinctSources : ((found.flatMap Declaration.references).map Reference.source).Nodup) :
    Table.completed order = Table.completed found := by
  -- Sources that are written differently name different columns, since each is written as a path.
  have distinctPaths :
      ((found.flatMap Declaration.references).map fun reference =>
        Path.ofText reference.source).Nodup := by
    have asWritten : ((found.flatMap Declaration.references).map fun reference =>
        Path.ofText reference.source).map Path.text =
          (found.flatMap Declaration.references).map Reference.source := by
      rw [List.map_map]
      exact List.map_congr_left fun reference collected => text_ofText_source collected
    refine List.Nodup.of_map Path.text ?_
    rwa [asWritten]
  have sameReferences (table : Table) :
      table.withReferences (order.flatMap Declaration.references) =
      table.withReferences (found.flatMap Declaration.references) :=
    (Table.withReferences_perm (perm.flatMap_right _).symm distinctPaths table).symm
  have sameEnums : Column.withEnum (Keyed.ofPairs (order.filterMap Declaration.enum?)) =
      Column.withEnum (Keyed.ofPairs (found.filterMap Declaration.enum?)) := by
    funext column
    rw [Column.withEnum, Column.withEnum, Keyed.get?_ofPairs_perm (perm.filterMap _) distinctEnums]
  funext table
  rw [Table.completed, Table.completed, sameReferences, sameEnums]

/-- An accepted text can be cut into pieces with one declaration each.  When no two tables share a
name, no two enums share a name and no two references share a source, the pieces may be written in
any other order and in any layout: the table of each declaration is the same as it is in the
text. -/
theorem parse?_rearranged {text : String} {found : List Declaration}
    (accepted : declarations text = .ok found)
    (distinctTables : ((found.filterMap Declaration.table?).map Table.name).Nodup)
    (distinctEnums : ((found.filterMap Declaration.enum?).map Prod.fst).Nodup)
    (distinctSources : ((found.flatMap Declaration.references).map Reference.source).Nodup) :
    (∃ (pieces : List Piece) (rest : String), text = String.join (pieces.map Piece.text) ++ rest ∧
      declarations rest = .ok [] ∧ pieces.map Piece.declaration = found) ∧
    (parse? text).result = some ((found.filterMap Declaration.table?).map (Table.completed found)) ∧
    ∀ pieces order : List Piece, pieces.map Piece.declaration = found → order.Perm pieces →
      ∀ other : String, lexemesOf other.toList = lexemesOf (Piece.lines order).toList →
        (parse? other).result =
          some ((order.filterMap fun piece => piece.declaration.table?).map
            (Table.completed found)) := by
  refine ⟨exists_pieces accepted, ?_, ?_⟩
  · rw [result_parse? accepted, result_tablesOf_of_distinct distinctTables]
  · rintro pieces order rfl perm other sameLexemes
    have orderPerm : (order.map Piece.declaration).Perm (pieces.map Piece.declaration) := perm.map _
    have orderTables :
        (((order.map Piece.declaration).filterMap Declaration.table?).map Table.name).Nodup :=
      ((orderPerm.filterMap _).map _).nodup_iff.2 distinctTables
    rw [result_parse?_congr sameLexemes, result_parse? (Piece.declarations_lines order),
      result_tablesOf_of_distinct orderTables,
      Table.completed_perm orderPerm distinctEnums distinctSources, List.filterMap_map]
    rfl

/-- Pieces that need each other: a reference, the table that it starts at, the enum of a column of
this table, and the table that the reference leads to. -/
def Piece.scattered : List Piece := [
  { text := "Ref author: users.id > posts.author"
    declaration := .reference (some "author") ⟨"users", "id"⟩ .right ⟨"posts", "author"⟩
    declares := by decide +kernel },
  { text := "Table posts as p \x7b author int kind kind [nn] \x7d // \x7b"
    declaration := .table "posts" (some "p")
      [.column ⟨"author", ⟨"int", []⟩, []⟩, .column ⟨"kind", ⟨"kind", []⟩, [.notNull]⟩]
    declares := by decide +kernel },
  { text := "Enum kind \x7b note page \x7d"
    declaration := .enum "kind" ["note", "page"]
    declares := by decide +kernel },
  { text := "Table users \x7b id int [pk] Note: 'n' \x7d"
    declaration := .table "users" none [.column ⟨"id", ⟨"int", []⟩, [.primaryKey]⟩, .note "n"]
    declares := by decide +kernel }]

theorem parse?_reversed :
    let found := Piece.scattered.map Piece.declaration
    declarations (Piece.lines Piece.scattered) = .ok found ∧
      ((found.filterMap Declaration.table?).map Table.name).Nodup ∧
      ((found.filterMap Declaration.enum?).map Prod.fst).Nodup ∧
      ((found.flatMap Declaration.references).map Reference.source).Nodup ∧
      (parse? (Piece.lines Piece.scattered)).result =
        some ((found.filterMap Declaration.table?).map (Table.completed found)) ∧
      (parse? (Piece.lines Piece.scattered.reverse)).result =
        some ((found.reverse.filterMap Declaration.table?).map (Table.completed found)) := by
  intro found
  have accepted : declarations (Piece.lines Piece.scattered) = .ok found :=
    Piece.declarations_lines _
  have distinctTables : ((found.filterMap Declaration.table?).map Table.name).Nodup := by decide
  have distinctEnums : ((found.filterMap Declaration.enum?).map Prod.fst).Nodup := by decide
  have distinctSources : ((found.flatMap Declaration.references).map Reference.source).Nodup := by
    decide
  rcases parse?_rearranged accepted distinctTables distinctEnums distinctSources with
    ⟨_, result, resultOfOrder⟩
  exact ⟨accepted, distinctTables, distinctEnums, distinctSources, result,
    resultOfOrder _ _ rfl (List.reverse_perm _) _ rfl⟩

end Schemagram.Strict
