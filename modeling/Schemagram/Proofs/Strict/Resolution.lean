import Schemagram.Proofs.Strict.References

/-!
# What resolving references does to all columns

A path leads to one place at most: to the first column of its name in the first table of its name.
Binding references therefore writes onto columns at known places.  A column ends up with the target
of the last reference that starts at its place and with the last name among those references, while
all other columns and all other fields stay; the references that start nowhere are reported.

The name and the key of a column are written one by one.  So they come from one reference if the
last one that starts at the column has a name, and otherwise the column may keep the name of an
earlier one.
-/

namespace Schemagram.Strict

/-! ### Places -/

/-- The place of the column that a path leads to: the place of the first table of its name, and the
place of the first column of its name there. -/
def place? (tables : List Table) (path : Path) : Option (Nat × Nat) :=
  (tables.findIdx? (·.name = path.table)).bind fun index =>
    (tables[index]?.bind fun table => table.columns.findIdx? (·.name = path.column)).map (index, ·)

/-- A table with each of its columns changed, as its place says. -/
def Table.changeColumns (change : Nat → Column → Column) (table : Table) : Table :=
  { table with columns := table.columns.mapIdx change }

/-- Tables with each of their columns changed, as its place says. -/
def changeColumns (change : Nat × Nat → Column → Column) (tables : List Table) : List Table :=
  tables.mapIdx fun index => Table.changeColumns fun place => change (index, place)

section

variable {change more : Nat × Nat → Column → Column} {tables : List Table}

/-- A change that does not look at places is the same in every table. -/
theorem changeColumns_eq_map (change : Column → Column) (tables : List Table) :
    changeColumns (fun _ => change) tables =
      tables.map fun table => { table with columns := table.columns.map change } := by
  have inTable (table : Table) :
      (table.changeColumns fun _ => change) =
      { table with columns := table.columns.map change } := by
    rw [Table.changeColumns, mapIdx_eq_map]
  simp only [← inTable]
  exact mapIdx_eq_map _ tables

theorem changeColumns_unchanged (tables : List Table) :
    changeColumns (fun _ column => column) tables = tables := by
  rw [changeColumns_eq_map]
  simp

theorem changeColumns_changeColumns (tables : List Table) :
    changeColumns more (changeColumns change tables) =
      changeColumns (fun place column => more place (change place column)) tables := by
  have inTable (first second : Nat → Column → Column) :
      Table.changeColumns second ∘ Table.changeColumns first =
      Table.changeColumns fun place column => second place (first place column) := by
    funext table
    simp only [Table.changeColumns, Function.comp_apply, List.mapIdx_mapIdx]
    rfl
  simp only [changeColumns, List.mapIdx_mapIdx, inTable]

theorem exists_of_changeColumns {index place : Nat} {table : Table} {column : Column}
    (isTable : (changeColumns change tables)[index]? = some table)
    (isColumn : table.columns[place]? = some column) :
    ∃ before old, tables[index]? = some before ∧ before.columns[place]? = some old ∧
      change (index, place) old = column := by
  rw [changeColumns, List.getElem?_mapIdx] at isTable
  rcases Option.map_eq_some_iff.1 isTable with ⟨before, isBefore, rfl⟩
  rw [Table.changeColumns, List.getElem?_mapIdx] at isColumn
  rcases Option.map_eq_some_iff.1 isColumn with ⟨old, isOld, isNew⟩
  exact ⟨before, old, isBefore, isOld, isNew⟩

/-- A change that keeps the names of columns keeps the places that paths lead to. -/
theorem place?_changeColumns (keepsName : ∀ place column, (change place column).name = column.name)
    (path : Path) : place? (changeColumns change tables) path = place? tables path := by
  have keepsTable (index : Nat) (table : Table) :
      (table.changeColumns fun place => change (index, place)).name = table.name := rfl
  rw [place?, place?, changeColumns, findIdx?_mapIdx keepsTable]
  congr 1
  funext index
  rw [List.getElem?_mapIdx]
  cases tables[index]? with
  | none => rfl
  | some table =>
    have inTable := findIdx?_mapIdx (fun place => keepsName (index, place)) table.columns
      path.column
    exact congrArg (Option.map _) inTable

end

theorem place?_eq_some {tables : List Table} {path : Path} {index place : Nat} :
    place? tables path = some (index, place) ↔ tables.findIdx? (·.name = path.table) = some index ∧
      ∃ table, tables[index]? = some table ∧ table.columns.findIdx? (·.name = path.column) =
        some place := by
  simp only [place?, Option.bind_eq_some_iff, Option.map_eq_some_iff, Prod.mk.injEq]
  constructor
  · rintro ⟨_, isFirst, _, ⟨table, isTable, inTable⟩, rfl, rfl⟩
    exact ⟨isFirst, table, isTable, inTable⟩
  · rintro ⟨isFirst, table, isTable, inTable⟩
    exact ⟨index, isFirst, place, ⟨table, isTable, inTable⟩, rfl, rfl⟩

/-- A path leads nowhere exactly if it names no column. -/
theorem place?_eq_none {tables : List Table} {path : Path} :
    place? tables path = none ↔ column? tables path = none := by
  rw [place?, column?, List.find?_eq_bind_findIdx?_getElem?]
  cases tables.findIdx? (·.name = path.table) with
  | none => simp
  | some index =>
    rw [Option.bind_some, Option.bind_some, Option.map_eq_none_iff]
    cases tables[index]? with
    | none => simp
    | some table =>
      simp only [Option.bind_some, List.findIdx?_eq_none_iff, List.find?_eq_none, Bool.not_eq_true]

/-! ### Binding references -/

/-- A reference changes the column at the place that its source leads to, and no other one. -/
theorem result_bind_eq_changeColumns (tables : List Table) (reference : Reference) :
    (bind tables reference).result = changeColumns (fun place column =>
      if place? tables (Path.ofText reference.source) = some place then column.bind reference
        else column)
        tables := by
  have isResult : (bind tables reference).result = (bind? tables reference).getD tables := by
    unfold bind
    cases bind? tables reference <;> rfl
  have inTable (table : Table) :
      (table.bind? reference).getD table = table.changeColumns fun place column =>
      if table.columns.findIdx? (·.name = (Path.ofText reference.source).column) = some place then
        column.bind reference
      else column := by
    have columns := getD_changeFirst?_eq_mapIdx (·.name = (Path.ofText reference.source).column)
      (fun column => some (column.bind reference)) table.columns
    simp only [Option.getD_some] at columns
    rw [Table.changeColumns, ← columns, Table.bind?]
    cases changeFirst? (·.name = (Path.ofText reference.source).column)
      (fun column => some (column.bind reference)) table.columns <;> rfl
  rw [isResult, bind?_eq, getD_changeFirst?_eq_mapIdx, changeColumns]
  refine List.mapIdx_eq_mapIdx_iff.2 fun index bound => ?_
  by_cases isFirst : tables.findIdx? (·.name = (Path.ofText reference.source).table) = some index
  · have isPlace (place : Nat) :
        place? tables (Path.ofText reference.source) = some (index, place) ↔
        tables[index].columns.findIdx? (·.name = (Path.ofText reference.source).column) =
          some place := by
      simp [place?_eq_some, isFirst, List.getElem?_eq_getElem bound]
    simp only [if_pos isFirst, inTable, isPlace]
  · have noPlace (place : Nat) :
        place? tables (Path.ofText reference.source) ≠ some (index, place) :=
      fun isPlace => isFirst (place?_eq_some.1 isPlace).1
    simp [if_neg isFirst, if_neg (noPlace _), Table.changeColumns, mapIdx_eq_map]

/-- The references that start at a place, in their order. -/
def startingAt (tables : List Table) (references : List Reference) (place : Nat × Nat) :
    List Reference :=
  references.filter fun reference => place? tables (Path.ofText reference.source) = some place

namespace Column

/-- A column with what references leave there: the target of the last one, and the last name. -/
def bound (references : List Reference) (column : Column) : Column :=
  { column with
    foreignKey? := (references.getLast?.map Reference.target).or column.foreignKey?
    foreignKeyName? :=
      ((references.filter (!·.name.isEmpty)).getLast?.map Reference.name).or
        column.foreignKeyName? }

theorem bound_cons (reference : Reference) (more : List Reference) (column : Column) :
    column.bound (reference :: more) = (column.bind reference).bound more := by
  simp only [bound, bind, mk.injEq, true_and, and_true]
  constructor
  · rw [List.getLast?_cons]
    cases more.getLast? <;> rfl
  · rw [List.filter_cons]
    cases unnamed : reference.name.isEmpty with
    | true => rfl
    | false =>
      rw [Bool.not_false, if_pos rfl, List.getLast?_cons]
      cases (more.filter (!·.name.isEmpty)).getLast? <;> rfl

/-- What is left on a column is left there again. -/
theorem bound_bound (references : List Reference) (column : Column) :
    (column.bound references).bound references = column.bound references := by
  simp only [bound, mk.injEq, true_and, and_true]
  constructor
  · cases references.getLast? <;> rfl
  · cases (references.filter (!·.name.isEmpty)).getLast? <;> rfl

end Column

theorem place?_bind (tables : List Table) (reference : Reference) (path : Path) :
    place? (bind tables reference).result path = place? tables path := by
  rw [result_bind_eq_changeColumns]
  refine place?_changeColumns (fun place column => ?_) path
  split <;> rfl

/-- Every column is left with what the references that start at it leave there. -/
theorem result_bindAll (tables : List Table) (references : List Reference) :
    (bindAll tables references).result =
      changeColumns (fun place => Column.bound (startingAt tables references place)) tables := by
  induction references generalizing tables with
  | nil => exact (changeColumns_unchanged tables).symm
  | cons reference more ih =>
    rw [bindAll_cons, Logged.result_bind, ih]
    simp only [startingAt, place?_bind]
    rw [result_bind_eq_changeColumns, changeColumns_changeColumns]
    congr 1
    funext place column
    by_cases starts : place? tables (Path.ofText reference.source) = some place
    · rw [if_pos starts, List.filter_cons_of_pos (by simpa using starts), Column.bound_cons]
    · rw [if_neg starts, List.filter_cons_of_neg (by simpa using starts)]

/-! ### Enums -/

theorem withEnums_eq_changeColumns (enums : Enums) (tables : List Table) :
    withEnums enums tables = changeColumns (fun _ column =>
      if column.type ∈ Keyed.keys
        enums then { column with enumValues? := Keyed.get? column.type enums }
      else column) tables := by
  have onColumn (column : Column) : column.withEnum enums =
      if column.type ∈ Keyed.keys
        enums then { column with enumValues? := Keyed.get? column.type enums }
      else column := by
    unfold Column.withEnum
    cases registered : Keyed.get? column.type enums with
    | none => rw [if_neg (Keyed.get?_eq_none.1 registered)]
    | some members =>
      rw [if_pos]
      by_contra unknown
      rw [Keyed.get?_eq_none.2 unknown] at registered
      cases registered
  rw [changeColumns_eq_map, ← funext onColumn]
  rfl

/-! ### Both passes -/

theorem startingAt_changeColumns {change : Nat × Nat → Column → Column}
    (keepsName : ∀ place column, (change place column).name = column.name) (tables : List Table)
    (references : List Reference) :
    startingAt (changeColumns change tables) references = startingAt tables references := by
  funext place
  simp only [startingAt, place?_changeColumns keepsName]

theorem result_bindAll_bindAll (tables : List Table) (references : List Reference) :
    (bindAll (bindAll tables references).result references).result =
    (bindAll tables references).result := by
  have keepsName (place : Nat × Nat) (column : Column) :
      (column.bound (startingAt tables references place)).name = column.name := rfl
  rw [result_bindAll, result_bindAll tables, startingAt_changeColumns keepsName,
    changeColumns_changeColumns]
  simp only [Column.bound_bound]

theorem Column.withEnum_withEnum (enums : Enums) (column : Column) :
    (column.withEnum enums).withEnum enums = column.withEnum enums := by
  unfold withEnum
  cases registered : Keyed.get? column.type enums with
  | none => simp only [registered]
  | some members => simp only [registered]

theorem withEnums_withEnums (enums : Enums) (tables : List Table) :
    withEnums enums (withEnums enums tables) = withEnums enums tables := by
  simp [withEnums, Column.withEnum_withEnum]

/-- Resolving references leaves every column with the target of the last reference that starts at it
and with the last name among those references, and reports the references that start nowhere.
Attaching enums then gives their members to exactly the columns whose type is an enum.  Neither
changes anything else, and doing either of them again changes nothing at all. -/
theorem columns_resolved (tables : List Table) (references : List Reference) (enums : Enums) :
    (bindAll tables references).result =
        changeColumns (fun place => Column.bound (startingAt tables references place)) tables ∧
      (bindAll tables references).events =
        (references.filter fun reference => place? tables (Path.ofText reference.source) = none).map
          (fun reference => .sourceMissing reference.source reference.target) ∧
      withEnums enums tables =
        changeColumns (fun _ column =>
          if column.type ∈ Keyed.keys
            enums then { column with enumValues? := Keyed.get? column.type enums }
          else column) tables ∧
      (bindAll (bindAll tables references).result references).result =
        (bindAll tables references).result ∧
      withEnums enums (withEnums enums tables) = withEnums enums tables := by
  refine ⟨result_bindAll tables references, ?_, withEnums_eq_changeColumns enums tables,
    result_bindAll_bindAll tables references, withEnums_withEnums enums tables⟩
  simp only [place?_eq_none, events_bindAll]

/-! ### The name and the target of a column -/

/-- No property of a column gives it a key. -/
theorem keyless_toColumn (declaration : ColumnDeclaration) :
    declaration.toColumn.foreignKey? = none ∧ declaration.toColumn.foreignKeyName? = none := by
  unfold ColumnDeclaration.toColumn
  refine List.foldlRecOn declaration.properties _
    (motive := fun column : Column => column.foreignKey? = none ∧ column.foreignKeyName? = none)
      ⟨rfl, rfl⟩ ?_
  intro column keyless property _
  cases property <;> exact keyless

theorem keyless_of_declared {found : List Declaration} {table : Table} {column : Column}
    (declared : table ∈ found.filterMap Declaration.table?) (mem : column ∈ table.columns) :
    column.foreignKey? = none ∧ column.foreignKeyName? = none := by
  rcases List.mem_filterMap.1 declared with ⟨declaration, _, isTable⟩
  cases declaration with
  | table name alias? entries =>
    cases isTable
    rcases List.mem_map.1 mem with ⟨columnDeclaration, _, rfl⟩
    exact keyless_toColumn columnDeclaration
  | _ => cases isTable

theorem foreignKeyName?_withEnum (enums : Enums) (column : Column) :
    (column.withEnum enums).foreignKeyName? = column.foreignKeyName? := by
  unfold Column.withEnum
  split <;> rfl

theorem result_tablesOf (found : List Declaration) : (tablesOf found).result =
    changeColumns (fun place column =>
      (column.bound (startingAt (found.filterMap Declaration.table?)
        (found.flatMap Declaration.references) place)).withEnum
          (Keyed.ofPairs (found.filterMap Declaration.enum?))) (found.filterMap
            Declaration.table?) := by
  rw [tablesOf, Logged.result_bind, Logged.result_pure, result_bindAll, withEnums,
    ← changeColumns_eq_map, changeColumns_changeColumns]

/-- A column of the result has the target of the last reference that starts there, and the last name
among those references. -/
theorem key_and_name_of_column {text : String} {found : List Declaration} {tables : List Table}
    (accepted : declarations text = .ok found) (read : (parse? text).result = some tables)
    {index place : Nat} {table : Table} {column : Column} (isTable : tables[index]? = some table)
    (isColumn : table.columns[place]? = some column) :
    column.foreignKey? =
    (startingAt tables (found.flatMap Declaration.references) (index, place)).getLast?.map
        Reference.target ∧
      column.foreignKeyName? =
        ((startingAt tables (found.flatMap Declaration.references) (index, place)).filter
        (!·.name.isEmpty)).getLast?.map Reference.name := by
  rw [result_parse? accepted, Option.some.injEq, result_tablesOf] at read
  subst read
  have keepsName (place : Nat × Nat) (column : Column) :
      ((column.bound (startingAt (found.filterMap Declaration.table?)
        (found.flatMap Declaration.references) place)).withEnum
          (Keyed.ofPairs (found.filterMap Declaration.enum?))).name = column.name :=
    name_withEnum _ _
  rw [startingAt_changeColumns keepsName]
  rcases exists_of_changeColumns isTable isColumn with ⟨before, old, isBefore, isOld, rfl⟩
  have keyless := keyless_of_declared (List.mem_of_getElem? isBefore) (List.mem_of_getElem? isOld)
  rw [foreignKey?_withEnum, foreignKeyName?_withEnum, Column.bound]
  dsimp only
  rw [keyless.1, keyless.2, Option.or_none, Option.or_none]
  exact ⟨rfl, rfl⟩

/-- The target of a column is that of the last reference that starts there.  Its name is not empty,
and belongs to the same reference if that one has a name, and to an earlier one that starts there if
it has none. -/
theorem name_of_last_reference {text : String} {found : List Declaration} {tables : List Table}
    (accepted : declarations text = .ok found) (read : (parse? text).result = some tables)
    {index place : Nat} {table : Table} {column : Column} (isTable : tables[index]? = some table)
    (isColumn : table.columns[place]? = some column) {target name : String}
    (hasKey : column.foreignKey? = some target) (hasName : column.foreignKeyName? = some name) :
    ∃ before last, startingAt tables (found.flatMap Declaration.references) (index, place) =
      before ++ [last] ∧
      last.target = target ∧ name ≠ "" ∧ (last.name ≠ "" → last.name = name) ∧
      (last.name = "" → ∃ earlier ∈ before, earlier.name = name) := by
  rcases key_and_name_of_column accepted read isTable isColumn with ⟨key, keyName⟩
  rw [hasKey, eq_comm, Option.map_eq_some_iff] at key
  rcases key with ⟨last, isLast, isTarget⟩
  rcases List.getLast?_eq_some_iff.1 isLast with ⟨before, whole⟩
  have isNamed : name ≠ "" := by
    rcases Option.map_eq_some_iff.1 (keyName.symm.trans hasName) with ⟨named, isNamed, rfl⟩
    simpa using (List.mem_filter.1 (List.mem_of_getLast? isNamed)).2
  rw [hasName, whole, List.filter_append, List.getLast?_append] at keyName
  refine ⟨before, last, whole, isTarget, isNamed, ?_, ?_⟩
  · intro named
    rw [List.filter_cons_of_pos (by simpa using named)] at keyName
    exact (Option.some.inj keyName).symm
  · intro unnamed
    rw [List.filter_cons_of_neg (by simpa using unnamed), List.filter_nil, List.getLast?_nil,
      Option.none_or, eq_comm, Option.map_eq_some_iff] at keyName
    rcases keyName with ⟨earlier, isEarlier, isName⟩
    exact ⟨earlier, List.mem_of_mem_filter (List.mem_of_getLast? isEarlier), isName⟩

/-- A column at which two references start, the first one with a name and the second one without. -/
def namedFirst : String :=
  "Table a \x7b x int \x7d Table b \x7b y int z int \x7d Ref fk: a.x < b.y Ref: a.x < b.z"

def namedFirstDeclarations : List Declaration := [
  .table "a" none [.column ⟨"x", ⟨"int", []⟩, []⟩],
  .table "b" none [.column ⟨"y", ⟨"int", []⟩, []⟩, .column ⟨"z", ⟨"int", []⟩, []⟩],
  .reference (some "fk") ⟨"a", "x"⟩ .left ⟨"b", "y"⟩,
  .reference none ⟨"a", "x"⟩ .left ⟨"b", "z"⟩]

/-- The column gets the target of the second reference and the name of the first one. -/
def namedFirstTables : List Table := [
  ⟨"a", [⟨"x", "int", false, true, none, some "b.z", some "fk", none⟩], none, none⟩,
  ⟨"b", [⟨"y", "int", false, true, none, none, none, none⟩,
    ⟨"z", "int", false, true, none, none, none, none⟩], none, none⟩]

theorem declarations_namedFirst : declarations namedFirst = .ok namedFirstDeclarations := by
  decide +kernel

theorem result_namedFirst : (parse? namedFirst).result = some namedFirstTables := by
  rw [result_parse? declarations_namedFirst]
  decide

theorem name_of_earlier_reference :
    startingAt namedFirstTables (namedFirstDeclarations.flatMap Declaration.references) (0, 0) =
        [⟨"fk", "a.x", "b.y"⟩, ⟨"", "a.x", "b.z"⟩] ∧
      ∃ before last, startingAt namedFirstTables
          (namedFirstDeclarations.flatMap Declaration.references) (0, 0) =
          before ++ [last] ∧ last.target = "b.z" ∧ "fk" ≠ "" ∧ (last.name ≠ "" → last.name = "fk") ∧
        (last.name = "" → ∃ earlier ∈ before, earlier.name = "fk") :=
  ⟨by decide, name_of_last_reference declarations_namedFirst result_namedFirst rfl rfl rfl rfl⟩

/-- The name and the target of a column need not belong together: no reference may have both. -/
theorem name_of_another_reference :
    ¬∀ text found tables, declarations text = .ok found → (parse? text).result = some tables →
      ∀ (index place : Nat) (table : Table) (column : Column), tables[index]? = some table →
        table.columns[place]? = some column → ∀ target name, column.foreignKey? = some target →
          column.foreignKeyName? = some name →
            ∃ reference ∈ startingAt tables (found.flatMap Declaration.references) (index, place),
              reference.name = name ∧ reference.target = target := by
  intro together
  have noReference : ¬∃ reference ∈
      startingAt namedFirstTables (namedFirstDeclarations.flatMap Declaration.references) (0, 0),
        reference.name = "fk" ∧ reference.target = "b.z" := by decide
  exact noReference (together _ _ _ declarations_namedFirst result_namedFirst 0 0 _ _ rfl rfl
    _ _ rfl rfl)

end Schemagram.Strict
