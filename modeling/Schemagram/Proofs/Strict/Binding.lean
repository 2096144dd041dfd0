import Mathlib.Data.List.Nodup
import Schemagram.Proofs.Scan.Forms
import Schemagram.Proofs.Tables.Binding
import Schemagram.Strict.Table

/-!
# Binding strict references

A reference changes the key of one column, the one that its source names, and nothing else; it is
reported when there is no such column.  When no two tables share a name, every table is completed by
itself, and references with different sources may be bound in any order.
-/

namespace Schemagram.Strict

/-! ### The column that a path names -/

/-- The column that a path names: the first of its name in the first table of its name. -/
def column? (tables : List Table) (path : Path) : Option Column :=
  (tables.find? (·.name = path.table)).bind fun table => table.columns.find? (·.name = path.column)

theorem Path.ext {path other : Path} (sameTable : path.table = other.table)
    (sameColumn : path.column = other.column) : path = other := by
  rcases path with ⟨table, column⟩
  rcases other with ⟨otherTable, otherColumn⟩
  rw [Path.mk.injEq]
  exact ⟨sameTable, sameColumn⟩

/-- A source that has a dot in it is written as the path that it is read as. -/
theorem Path.text_ofText {text : String} (dotted : '.' ∈ text.toList) :
    (Path.ofText text).text = text := by
  rcases List.eq_append_cons_of_mem dotted with ⟨table, column, split, noDot⟩
  have isRun : ∀ char ∈ table, decide (char ≠ '.') = true := by
    intro char mem
    rw [decide_eq_true_eq]
    rintro rfl
    exact noDot mem
  have ends : Text.Ends (· ≠ '.') ('.' :: column) := by simp
  have isPath : Path.ofText text = ⟨String.ofList table, String.ofList column⟩ := by
    simp only [Path.ofText, split, Text.takeWhile_run isRun ends, Text.dropWhile_run isRun ends,
      List.drop_succ_cons, List.drop_zero]
  rw [isPath, ← String.toList_inj, split]
  simp [Path.text]

/-- Every reference of a declaration starts at a path. -/
theorem exists_path_of_mem_references {declaration : Declaration} {reference : Reference}
    (collected : reference ∈ declaration.references) :
    ∃ path : Path, reference.source = path.text := by
  have ofArrow (name : String) (left right : Path) (arrow : Arrow) :
      ∃ path : Path, (Reference.ofArrow name left arrow right).source = path.text := by
    cases arrow with
    | left => exact ⟨left, rfl⟩
    | right => exact ⟨right, rfl⟩
  cases declaration with
  | table name alias? entries =>
    rcases List.mem_flatMap.1 collected with ⟨column, _, inColumn⟩
    rcases List.mem_filterMap.1 inColumn with ⟨property, _, isReference⟩
    cases property with
    | reference arrow other =>
      cases isReference
      exact ofArrow _ _ _ _
    | _ => cases isReference
  | enum name members => cases collected
  | reference name? left arrow right =>
    rw [List.mem_singleton.1 collected]
    exact ofArrow _ _ _ _

theorem text_ofText_source {found : List Declaration} {reference : Reference}
    (collected : reference ∈ found.flatMap Declaration.references) :
    (Path.ofText reference.source).text = reference.source := by
  rcases List.mem_flatMap.1 collected with ⟨declaration, _, inDeclaration⟩
  rcases exists_path_of_mem_references inDeclaration with ⟨path, isPath⟩
  refine Path.text_ofText ?_
  rw [isPath]
  simp [Path.text]

/-! ### One reference -/

namespace Table

/-- Binds a reference to the column of a table that its source names. -/
def bind? (reference : Reference) (table : Table) : Option Table :=
  (changeFirst? (·.name = (Path.ofText reference.source).column)
    (fun column => some (column.bind reference)) table.columns).map fun columns =>
      { table with columns }

variable {table bound : Table} {reference : Reference}

theorem bind?_eq_none : table.bind? reference = none ↔
    table.columns.find? (·.name = (Path.ofText reference.source).column) = none := by
  rw [bind?, Option.map_eq_none_iff, changeFirst?_eq_none]
  cases table.columns.find? (·.name = (Path.ofText reference.source).column) <;> simp

theorem name_of_bind? (isBound : table.bind? reference = some bound) : bound.name = table.name := by
  rcases Option.map_eq_some_iff.1 isBound with ⟨columns, _, rfl⟩
  rfl

theorem find?_of_bind? (isBound : table.bind? reference = some bound) (name : String) :
    bound.columns.find? (·.name = name) =
      if name = (Path.ofText reference.source).column then
        (table.columns.find? (·.name = name)).map (Column.bind reference)
      else table.columns.find? (·.name = name) := by
  rcases Option.map_eq_some_iff.1 isBound with ⟨columns, isChanged, rfl⟩
  refine (find?_of_changeFirst? isChanged ?_ name).trans ?_
  · rintro column _ ⟨rfl⟩
    rfl
  · cases table.columns.find? (·.name = name) <;> rfl

end Table

theorem bind?_eq (tables : List Table) (reference : Reference) : bind? tables reference =
    changeFirst? (·.name = (Path.ofText reference.source).table) (Table.bind? reference) tables :=
  rfl

theorem bind?_eq_none {tables : List Table} {reference : Reference} :
    bind? tables reference = none ↔ column? tables (Path.ofText reference.source) = none := by
  rw [bind?_eq, changeFirst?_eq_none, column?]
  cases tables.find? (·.name = (Path.ofText reference.source).table) with
  | none => simp
  | some table => exact Table.bind?_eq_none

/-- A reference is reported exactly when its source names no column. -/
theorem events_bind (tables : List Table) (reference : Reference) :
    (bind tables reference).events =
      if column? tables (Path.ofText reference.source) = none then
        [.sourceMissing reference.source reference.target]
      else [] := by
  unfold bind
  cases bound : bind? tables reference with
  | none => rw [if_pos (bind?_eq_none.1 bound)]
  | some changed => rw [if_neg fun none => by simp [bind?_eq_none.2 none] at bound]

theorem column?_of_bind? {tables changed : List Table} {reference : Reference}
    (isBound : bind? tables reference = some changed) (path : Path) :
    column? changed path =
      if path = Path.ofText reference.source then (column? tables path).map (Column.bind reference)
      else column? tables path := by
  rw [bind?_eq] at isBound
  rw [column?, column?, find?_of_changeFirst? isBound (fun _ _ => Table.name_of_bind?) path.table]
  by_cases sameTable : path.table = (Path.ofText reference.source).table
  · have isSource : path = Path.ofText reference.source ↔
        path.column = (Path.ofText reference.source).column :=
      ⟨congrArg Path.column, Path.ext sameTable⟩
    have isChanged : (tables.find? (·.name = path.table)).bind (Table.bind? reference) ≠ none := by
      rw [sameTable, Ne, ← changeFirst?_eq_none, isBound]
      simp
    -- The changed table is the one that the path names, so that only its columns have to be
    -- compared.
    rw [if_pos sameTable]
    revert isChanged
    cases tables.find? (·.name = path.table) with
    | none => exact fun isChanged => absurd rfl isChanged
    | some table =>
      simp only [Option.bind_some, isSource]
      cases tableBound : table.bind? reference with
      | none => exact fun isChanged => absurd rfl isChanged
      | some bound => exact fun _ => Table.find?_of_bind? tableBound path.column
  · have noSource : path ≠ Path.ofText reference.source := by
      rintro rfl
      exact sameTable rfl
    rw [if_neg sameTable, if_neg noSource]

/-- A reference is written onto the column that its source names, and onto no other one. -/
theorem column?_bind (tables : List Table) (reference : Reference) (path : Path) :
    column? (bind tables reference).result path =
      if path = Path.ofText reference.source then (column? tables path).map (Column.bind reference)
      else column? tables path := by
  cases isBound : bind? tables reference with
  | none =>
    have same : (bind tables reference).result = tables := by rw [bind, isBound]
    rw [same]
    split
    · rename_i isSource
      rw [isSource, bind?_eq_none.1 isBound, Option.map_none]
    · rfl
  | some changed =>
    have same : (bind tables reference).result = changed := by rw [bind, isBound]
    rw [same]
    exact column?_of_bind? isBound path

/-! ### Tables that share no name -/

/-- Binds a reference to the first column of its source's name, if there is one. -/
def Column.bindFirst (reference : Reference) (columns : List Column) : List Column :=
  (changeFirst? (·.name = (Path.ofText reference.source).column)
    (fun column => some (column.bind reference)) columns).getD columns

theorem Column.bindFirst_cons (reference : Reference) (column : Column) (rest : List Column) :
    bindFirst reference (column :: rest) =
      if column.name = (Path.ofText reference.source).column then column.bind reference :: rest
      else column :: bindFirst reference rest := by
  by_cases isSource : column.name = (Path.ofText reference.source).column
  · simp [bindFirst, changeFirst?, isSource]
  · simp only [bindFirst, changeFirst?, isSource, decide_false, Bool.false_eq_true, if_false]
    cases changeFirst? (·.name = (Path.ofText reference.source).column)
      (fun column => some (column.bind reference)) rest <;> rfl

/-- References to columns of different names may be bound in any order. -/
theorem Column.bindFirst_comm {reference other : Reference}
    (different : (Path.ofText reference.source).column ≠ (Path.ofText other.source).column)
    (columns : List Column) :
    bindFirst reference (bindFirst other columns) =
      bindFirst other (bindFirst reference columns) := by
  have name_bind (reference : Reference) (column : Column) :
    (column.bind reference).name = column.name := rfl
  induction columns with
  | nil => rfl
  | cons column rest ih =>
    rw [bindFirst_cons, bindFirst_cons]
    by_cases isSource : column.name = (Path.ofText reference.source).column
    · have noOther : column.name ≠ (Path.ofText other.source).column := isSource ▸ different
      rw [if_neg noOther, if_pos isSource, bindFirst_cons, bindFirst_cons,
        if_pos isSource, name_bind, if_neg noOther]
    · rw [if_neg isSource]
      by_cases isOther : column.name = (Path.ofText other.source).column
      · rw [if_pos isOther, bindFirst_cons, bindFirst_cons, name_bind, if_neg isSource,
          if_pos isOther]
      · rw [if_neg isOther, bindFirst_cons, bindFirst_cons, if_neg isSource, if_neg isOther, ih]

namespace Table

/-- A table with a reference bound to its column, if the source of the reference leads to one. -/
def withReference (reference : Reference) (table : Table) : Table :=
  { table with
    columns := if table.name = (Path.ofText reference.source).table then
      Column.bindFirst reference table.columns else table.columns }

/-- References with different sources may be bound to a table in any order. -/
theorem withReference_comm {reference other : Reference}
    (different : Path.ofText reference.source ≠ Path.ofText other.source) (table : Table) :
    (table.withReference other).withReference reference =
      (table.withReference reference).withReference other := by
  unfold withReference
  dsimp only
  congr 1
  by_cases isSource : table.name = (Path.ofText reference.source).table
  · by_cases isOther : table.name = (Path.ofText other.source).table
    · rw [if_pos isSource, if_pos isOther, if_pos isSource, if_pos isOther]
      apply Column.bindFirst_comm
      intro sameColumn
      exact different (Path.ext (isSource.symm.trans isOther) sameColumn)
    · rw [if_pos isSource, if_neg isOther, if_pos isSource, if_neg isOther]
  · rw [if_neg isSource, if_neg isSource]

/-- A table with references bound to its columns one after the other. -/
def withReferences (references : List Reference) (table : Table) : Table :=
  references.foldl (fun table reference => table.withReference reference) table

end Table

theorem result_bind_of_distinct {tables : List Table} (distinct : (tables.map Table.name).Nodup)
    (reference : Reference) :
    (bind tables reference).result = tables.map (Table.withReference reference) := by
  have isResult : (bind tables reference).result = (bind? tables reference).getD tables := by
    unfold bind
    cases bind? tables reference <;> rfl
  rw [isResult, bind?_eq, getD_changeFirst? distinct]
  refine List.map_congr_left fun table _ => ?_
  unfold Table.withReference Column.bindFirst Table.bind?
  split
  · cases changeFirst? (·.name = (Path.ofText reference.source).column)
      (fun column => some (column.bind reference)) table.columns <;> rfl
  · rfl

/-- Where no two tables share a name, each of them is completed by itself. -/
theorem result_bindAll_of_distinct {tables : List Table} (distinct : (tables.map Table.name).Nodup)
    (references : List Reference) :
    (bindAll tables references).result = tables.map (Table.withReferences references) := by
  rw [bindAll, Logged.result_foldlM]
  induction references generalizing tables with
  | nil => exact (List.map_id tables).symm
  | cons reference more ih =>
    have sameNames : (tables.map (Table.withReference reference)).map Table.name =
        tables.map Table.name :=
      List.map_map
    rw [List.foldl_cons, result_bind_of_distinct distinct, ih (by rwa [sameNames]), List.map_map]
    rfl

/-- References with different sources may be bound in any order. -/
theorem Table.withReferences_perm {references others : List Reference}
    (perm : references.Perm others)
    (distinct : (references.map fun reference => Path.ofText reference.source).Nodup)
    (table : Table) :
    table.withReferences references = table.withReferences others := by
  refine perm.foldl_eq' (fun first firstMem second secondMem table => ?_) table
  by_cases same : first = second
  · rw [same]
  · exact withReference_comm
      (fun samePath => same (List.inj_on_of_nodup_map distinct secondMem firstMem
      samePath).symm) table

/-- An accepted text has the tables that its declarations spell. -/
theorem result_parse? {text : String} {found : List Declaration}
    (accepted : declarations text = .ok found) :
    (parse? text).result = some (tablesOf found).result := by
  rw [parse?, accepted]
  rfl

end Schemagram.Strict
