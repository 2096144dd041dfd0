import Schemagram.Proofs.Strict.Binding

/-!
# What becomes of a strict reference

A column has one place for a key, and every reference that starts at the column is written there in
turn.  So a collected reference is reported if it starts at no column; if it does, its column ends
up with the target of the last reference that starts there.
-/

namespace Schemagram.Strict

/-! ### A run of references -/

theorem bindAll_cons (tables : List Table) (reference : Reference) (more : List Reference) :
    bindAll tables (reference :: more) = (bind tables reference >>= (bindAll · more)) := rfl

/-- Every column is written by the references that start at it, in their order. -/
theorem column?_bindAll (tables : List Table) (references : List Reference) (path : Path) :
    column? (bindAll tables references).result path =
      (column? tables path).map fun column =>
        (references.filter (Path.ofText ·.source = path)).foldl (fun column reference =>
          column.bind reference) column := by
  induction references generalizing tables with
  | nil => exact Option.map_id'.symm
  | cons reference more ih =>
    rw [bindAll_cons, Logged.result_bind, ih, column?_bind]
    by_cases isSource : path = Path.ofText reference.source
    · rw [if_pos isSource, List.filter_cons_of_pos (by simpa using isSource.symm), Option.map_map]
      rfl
    · rw [if_neg isSource, List.filter_cons_of_neg (by simpa using Ne.symm isSource)]

/-- Exactly the references that start at no column are reported, in their order. -/
theorem events_bindAll (tables : List Table) (references : List Reference) :
    (bindAll tables references).events =
      (references.filter fun reference => column? tables (Path.ofText reference.source) = none).map
        fun reference => .sourceMissing reference.source reference.target := by
  induction references generalizing tables with
  | nil => rfl
  | cons reference more ih =>
    have sameColumns (path : Path) :
        column? (bind tables reference).result path = none ↔ column? tables path = none := by
      rw [column?_bind]
      split
      · exact Option.map_eq_none_iff
      · exact Iff.rfl
    simp only [bindAll_cons, Logged.events_bind, ih, events_bind, sameColumns]
    by_cases missing : column? tables (Path.ofText reference.source) = none
    · simp [missing]
    · simp [missing]

/-- Of the references that are written onto a column, the last one leaves its target there. -/
theorem foreignKey?_foldl_bind (references : List Reference) (column : Column) :
    (references.foldl (fun column reference => column.bind reference) column).foreignKey? =
      (references.getLast?.map Reference.target).or column.foreignKey? := by
  induction references generalizing column with
  | nil => rfl
  | cons reference more ih =>
    rw [List.foldl_cons, ih, List.getLast?_cons]
    cases more.getLast? <;> rfl

/-! ### Enums -/

theorem name_withEnum (enums : Enums) (column : Column) :
    (column.withEnum enums).name = column.name := by
  unfold Column.withEnum
  split <;> rfl

theorem foreignKey?_withEnum (enums : Enums) (column : Column) :
    (column.withEnum enums).foreignKey? = column.foreignKey? := by
  unfold Column.withEnum
  split <;> rfl

theorem column?_withEnums (enums : Enums) (tables : List Table) (path : Path) :
    column? (withEnums enums tables) path = (column? tables path).map (Column.withEnum enums) := by
  have sameNames (name : String) : (fun column : Column => decide (column.name = name)) ∘
      Column.withEnum enums = fun column => decide (column.name = name) := by
    funext column
    rw [Function.comp_apply, name_withEnum]
  rw [column?, column?, withEnums, List.find?_map]
  change ((tables.find? (·.name = path.table)).map _).bind _ = _
  cases tables.find? (·.name = path.table) with
  | none => rfl
  | some table =>
    rw [Option.map_some, Option.bind_some, Option.bind_some, List.find?_map, sameNames]

/-! ### Whole texts -/

/-- A column of the result is the declared one with the references that start at it and with its
enum. -/
theorem column?_tablesOf (found : List Declaration) (path : Path) :
    column? (tablesOf found).result path =
      (column? (found.filterMap Declaration.table?) path).map fun column =>
        (((found.flatMap Declaration.references).filter (Path.ofText ·.source = path)).foldl
          (fun column reference => column.bind reference) column).withEnum
            (Keyed.ofPairs (found.filterMap Declaration.enum?)) := by
  rw [tablesOf, Logged.result_bind, Logged.result_pure, column?_withEnums, column?_bindAll,
    Option.map_map]
  rfl

theorem events_parse? {text : String} {found : List Declaration}
    (accepted : declarations text = .ok found) :
    (parse? text).events =
      ((found.flatMap Declaration.references).filter fun reference =>
        column? (found.filterMap Declaration.table?) (Path.ofText reference.source) = none).map
          fun reference => .sourceMissing reference.source reference.target := by
  simp [parse?, accepted, tablesOf, events_bindAll]

/-- Two collected references start at the same column only if their sources are written alike. -/
theorem filter_ofText_source {found : List Declaration} {reference : Reference}
    (collected : reference ∈ found.flatMap Declaration.references) :
    (found.flatMap Declaration.references).filter
    (Path.ofText ·.source = Path.ofText reference.source) =
      (found.flatMap Declaration.references).filter (·.source = reference.source) := by
  refine List.filter_congr fun other otherCollected => ?_
  rw [decide_eq_decide]
  refine ⟨fun samePath => ?_, congrArg Path.ofText⟩
  rw [← text_ofText_source otherCollected, samePath, text_ofText_source collected]

/-- A reference that is collected from a text is reported, or the column that its source names holds
the target of the last reference with this source: its own one, if no later reference has the same
source. -/
theorem reference_reported_or_written {text : String} {found : List Declaration}
    (accepted : declarations text = .ok found) {before after : List Reference}
    {reference : Reference}
    (collected : found.flatMap Declaration.references = before ++ reference :: after) :
    .sourceMissing reference.source reference.target ∈ (parse? text).events ∨
      ∃ tables column, (parse? text).result = some tables ∧
        column? tables (Path.ofText reference.source) = some column ∧
        column.foreignKey? =
          ((reference :: after).filter (·.source = reference.source)).getLast?.map
            Reference.target := by
  have isCollected : reference ∈ found.flatMap Declaration.references := by simp [collected]
  cases named : column? (found.filterMap Declaration.table?) (Path.ofText reference.source) with
  | none =>
    left
    rw [events_parse? accepted]
    refine List.mem_map.2 ⟨reference, List.mem_filter.2 ⟨isCollected, ?_⟩, rfl⟩
    rw [named, decide_eq_true_eq]
  | some column =>
    right
    have written := column?_tablesOf found (Path.ofText reference.source)
    rw [named, Option.map_some, filter_ofText_source isCollected, collected] at written
    refine ⟨(tablesOf found).result, _, result_parse? accepted, written, ?_⟩
    rw [foreignKey?_withEnum, foreignKey?_foldl_bind, List.filter_append, List.getLast?_append,
      List.filter_cons_of_pos (by simp), List.getLast?_cons]
    rfl

/-- Two columns of a table that give a key to the same column of another one: both references start
there. -/
def sharedSource : String :=
  "Table users \x7b id int \x7d Table posts \x7b a int [ref: > users.id] b int [ref: > users.id] \x7d"

def sharedSourceDeclarations : List Declaration := [
  .table "users" none [.column ⟨"id", ⟨"int", []⟩, []⟩],
  .table "posts" none [
    .column ⟨"a", ⟨"int", []⟩, [.reference .right ⟨"users", "id"⟩]⟩,
    .column ⟨"b", ⟨"int", []⟩, [.reference .right ⟨"users", "id"⟩]⟩]]

theorem declarations_sharedSource : declarations sharedSource = .ok sharedSourceDeclarations := by
  decide +kernel

theorem events_sharedSource : (parse? sharedSource).events = [] := by
  rw [events_parse? declarations_sharedSource]
  decide

/-- The column holds the target of the second reference. -/
theorem second_reference_written :
    declarations sharedSource = .ok sharedSourceDeclarations ∧
      sharedSourceDeclarations.flatMap Declaration.references =
        [⟨"", "users.id", "posts.a"⟩, ⟨"", "users.id", "posts.b"⟩] ∧
      ∃ tables column, (parse? sharedSource).result = some tables ∧
        column? tables ⟨"users", "id"⟩ = some column ∧ column.foreignKey? = some "posts.b" := by
  have collected : sharedSourceDeclarations.flatMap Declaration.references =
      [] ++ ⟨"", "users.id", "posts.a"⟩ :: [⟨"", "users.id", "posts.b"⟩] := by decide
  refine ⟨declarations_sharedSource, collected, ?_⟩
  rcases reference_reported_or_written declarations_sharedSource collected with
    reported | ⟨tables, column, result, named, key⟩
  · simp [events_sharedSource] at reported
  · exact ⟨tables, column, result, named, key⟩

/-- A reference may be neither reported nor written in the result: a later one with the same source
has taken its place. -/
theorem reference_overwritten :
    ¬∀ text found, declarations text = .ok found →
    ∀ reference ∈ found.flatMap Declaration.references,
      .sourceMissing reference.source reference.target ∈ (parse? text).events ∨
        ∃ tables column, (parse? text).result = some tables ∧
          column? tables (Path.ofText reference.source) = some column ∧
          column.foreignKey? = some reference.target := by
  intro allKept
  have collected : ⟨"", "users.id", "posts.a"⟩ ∈
      sharedSourceDeclarations.flatMap Declaration.references := by decide
  have lastKey : ((parse? sharedSource).result.bind (column? · (Path.ofText "users.id"))).bind
      Column.foreignKey? = some "posts.b" := by
    rw [result_parse? declarations_sharedSource]
    decide
  rcases allKept _ _ declarations_sharedSource _ collected with
    reported | ⟨tables, column, result, named, key⟩
  · simp [events_sharedSource] at reported
  · rw [result, Option.bind_some, named, Option.bind_some, key] at lastKey
    exact absurd lastKey (by decide)

end Schemagram.Strict
