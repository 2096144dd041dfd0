import Schemagram.Binding

/-!
# What binding changes

Attaching a key changes one table and nothing but its keys.  Settling changes the keys and the enums
of tables and keeps their names and those of their columns, so that a key leads somewhere afterwards
exactly if it did before.
-/

namespace Schemagram

theorem changeFirst?_eq_some {Item : Type} {accepts : Item → Bool} {change : Item → Option Item}
    {items changed : List Item} :
    changeFirst? accepts change items = some changed ↔
      ∃ before item after new, items = before ++ item :: after ∧
        (∀ earlier ∈ before, accepts earlier = false) ∧ accepts item = true ∧
        change item = some new ∧ changed = before ++ new :: after := by
  induction items generalizing changed with
  | nil => simp [changeFirst?]
  | cons first rest ih =>
    unfold changeFirst?
    by_cases accepted : accepts first = true
    · rw [if_pos accepted]
      simp only [Option.map_eq_some_iff]
      constructor
      · rintro ⟨new, isNew, rfl⟩
        exact ⟨[], first, rest, new, rfl, by simp, accepted, isNew, rfl⟩
      · rintro ⟨before, item, after, new, same, refused, _, isNew, rfl⟩
        cases before with
        | nil =>
          cases same
          exact ⟨new, isNew, rfl⟩
        | cons earlier before =>
          cases same
          simp [accepted] at refused
    · rw [if_neg accepted]
      simp only [Option.map_eq_some_iff, ih]
      constructor
      · rintro ⟨_, ⟨before, item, after, new, rfl, refused, found, isNew, rfl⟩, rfl⟩
        refine ⟨first :: before, item, after, new, rfl, ?_, found, isNew, rfl⟩
        simpa [accepted] using refused
      · rintro ⟨before, item, after, new, same, refused, found, isNew, rfl⟩
        cases before with
        | nil =>
          cases same
          exact absurd found accepted
        | cons earlier before =>
          cases same
          have refusedMore := fun other mem => refused other (List.mem_cons_of_mem _ mem)
          exact ⟨_, ⟨before, item, after, new, rfl, refusedMore, found, isNew, rfl⟩, rfl⟩

theorem mapIdx_eq_map {Item : Type} (change : Item → Item) (items : List Item) :
    (items.mapIdx fun _ item => change item) = items.map change :=
  List.ext_getElem? fun index => by rw [List.getElem?_mapIdx, List.getElem?_map]

/-- The first item that is accepted is changed if it can be, and no other one is. -/
theorem getD_changeFirst?_eq_mapIdx {Item : Type} (accepts : Item → Bool)
    (change : Item → Option Item) (items : List Item) :
    (changeFirst? accepts change items).getD items =
      items.mapIdx fun index item =>
        if items.findIdx? accepts = some index then (change item).getD item else item := by
  induction items with
  | nil => rfl
  | cons first rest ih =>
    rw [changeFirst?, List.mapIdx_cons, List.findIdx?_cons]
    by_cases accepted : accepts first = true
    · cases change first <;> simp [accepted, mapIdx_eq_map]
    · cases changed : changeFirst? accepts change rest <;> simpa [accepted, changed] using ih

/-! ### Changing the first item of a name -/

section

variable {Item Name : Type} [DecidableEq Name] {nameOf : Item → Name} {name : Name}
  {change : Item → Option Item} {items : List Item}

/-- An item is changed if the first one of its name can be. -/
theorem changeFirst?_eq_none :
    changeFirst? (nameOf · = name) change items = none ↔
      (items.find? (nameOf · = name)).bind change = none := by
  induction items with
  | nil => simp [changeFirst?]
  | cons item rest ih =>
    by_cases isNamed : nameOf item = name
    · simp [changeFirst?, isNamed]
    · simp [changeFirst?, isNamed, ih]

/-- After a change that keeps names, the first item of the name is the changed one, and the first
item of any other name is the same. -/
theorem find?_of_changeFirst? {changed : List Item}
    (isChanged : changeFirst? (nameOf · = name) change items = some changed)
    (keepsName : ∀ item new, change item = some new → nameOf new = nameOf item) (other : Name) :
    changed.find? (nameOf · = other) =
      if other = name then (items.find? (nameOf · = other)).bind change
      else items.find? (nameOf · = other) := by
  rcases changeFirst?_eq_some.1 isChanged with
    ⟨before, item, after, new, rfl, refused, accepted, isNew, rfl⟩
  have sameName := keepsName item new isNew
  rw [decide_eq_true_eq] at accepted
  rw [List.find?_append, List.find?_append, List.find?_cons, List.find?_cons, sameName]
  by_cases isName : other = name
  · subst isName
    have noneBefore : before.find? (nameOf · = other) = none := by
      rw [List.find?_eq_none]
      intro earlier mem
      simpa using refused earlier mem
    simp [noneBefore, accepted, isNew]
  · have different : nameOf item ≠ other := accepted ▸ Ne.symm isName
    simp [isName, different]

/-- Where no two items share a name, the one of the name is changed if it can be. -/
theorem getD_changeFirst? (distinct : (items.map nameOf).Nodup) :
    (changeFirst? (nameOf · = name) change items).getD items =
      items.map fun item => if nameOf item = name then (change item).getD item else item := by
  induction items with
  | nil => rfl
  | cons item rest ih =>
    rw [List.map_cons, List.nodup_cons] at distinct
    rw [changeFirst?, List.map_cons]
    by_cases isNamed : nameOf item = name
    · have others : (rest.map fun item => if nameOf item = name then (change item).getD item
          else item) =
          rest := by
        conv => rhs; rw [← List.map_id rest]
        refine List.map_congr_left fun other mem => if_neg ?_
        rintro rfl
        exact distinct.1 (isNamed ▸ List.mem_map_of_mem mem)
      cases change item <;> simp [isNamed, others]
    · have changedRest := ih distinct.2
      cases changed : changeFirst? (nameOf · = name) change rest <;>
        simpa [isNamed, changed] using changedRest

/-- Where every item keeps its name, the first item of a name keeps its place. -/
theorem findIdx?_mapIdx {change : Nat → Item → Item}
    (keepsName : ∀ index item, nameOf (change index item) = nameOf item) (items : List Item)
    (name : Name) :
    (items.mapIdx change).findIdx? (nameOf · = name) = items.findIdx? (nameOf · = name) := by
  have inNames (items : List Item) :
      items.findIdx? (nameOf · = name) = (items.map nameOf).findIdx? (· = name) := by
    rw [List.findIdx?_map]
    rfl
  have sameNames : (items.mapIdx change).map nameOf = items.map nameOf := by
    refine List.ext_getElem? fun index => ?_
    rw [List.getElem?_map, List.getElem?_map, List.getElem?_mapIdx]
    cases items[index]? with
    | none => rfl
    | some item => exact congrArg some (keepsName index item)
  rw [inNames, sameNames, ← inNames]

end

namespace Table

/-- Attaching a key changes no table, or gives the key to one of the tables. -/
theorem result_attach (tables : List Table) (owner : String) (key : ForeignKey) :
    (attach tables owner key).result = tables ∨
      ∃ before table after, tables = before ++ table :: after ∧
        (attach tables owner key).result = before ++ table.withKey key :: after := by
  unfold attach
  split
  · rename_i attached isAttached
    rcases changeFirst?_eq_some.1 isAttached with
      ⟨before, table, after, new, split, _, _, isNew, rfl⟩
    cases isNew
    exact .inr ⟨before, table, after, split, rfl⟩
  · exact .inl rfl

/-- Attaching a key keeps the names of the tables. -/
theorem names_attach (tables : List Table) (owner : String) (key : ForeignKey) :
    (attach tables owner key).result.map Table.name = tables.map Table.name := by
  rcases result_attach tables owner key with same | ⟨before, table, after, split, same⟩
  · rw [same]
  · rw [same, split, List.map_append, List.map_append, List.map_cons, List.map_cons, withKey]

theorem isSome_find? {tables : List Table} {name : String} :
    (find? tables name).isSome = true ↔ name ∈ tables.map Table.name := by
  simp [find?, List.find?_isSome]

theorem find?_map {change : Table → Table} (keepsName : ∀ table, (change table).name = table.name)
    (tables : List Table) (name : String) :
    find? (tables.map change) name = (find? tables name).map change := by
  rw [find?, List.find?_map]
  congr 2
  funext table
  simp [keepsName]

/-- A key is resolved when its column is one of the first table of the name it refers to. -/
theorem unresolved?_eq_none {tables : List Table} {key : ForeignKey} :
    unresolved? tables key = none ↔
      ∃ target, find? tables key.referenceTable = some target ∧
        ∃ column ∈ target.columns, column.name = key.referenceColumn := by
  unfold unresolved?
  cases find? tables key.referenceTable with
  | none => simp
  | some target => simp

theorem unresolved?_map {change : Table → Table}
    (keepsName : ∀ table, (change table).name = table.name)
    (keepsColumns : ∀ table, (change table).columns.map Column.name = table.columns.map Column.name)
    (tables : List Table) (key : ForeignKey) :
    unresolved? (tables.map change) key = unresolved? tables key := by
  unfold unresolved?
  rw [find?_map keepsName]
  cases find? tables key.referenceTable with
  | none => rfl
  | some target =>
    have asNames : ∀ columns : List Column, columns.any (·.name = key.referenceColumn) =
        (columns.map Column.name).any (· = key.referenceColumn) := by
      intro columns
      rw [List.any_map]
      rfl
    simp only [Option.map_some, asNames, keepsColumns]

def settled (enums : Enums) (tables : List Table) (table : Table) : Table :=
  (withoutDangling tables table).withEnums enums

theorem result_settle (enums : Enums) (tables : List Table) :
    (settle enums tables).result = tables.map (settled enums tables) := by
  simp only [settle, dropDangling, attachEnums, Logged.result_bind, List.map_map]
  rfl

@[simp]
theorem name_settled (enums : Enums) (tables : List Table) (table : Table) :
    (settled enums tables table).name = table.name := rfl

@[simp]
theorem columns_settled (enums : Enums) (tables : List Table) (table : Table) :
    (settled enums tables table).columns = table.columns.map (Column.withEnum enums) := rfl

@[simp]
theorem foreignKeys_settled (enums : Enums) (tables : List Table) (table : Table) :
    (settled enums tables table).foreignKeys =
      table.foreignKeys.filter fun key => (unresolved? tables key).isNone := rfl

end Table

@[simp]
theorem Column.name_withEnum (enums : Enums) (column : Column) :
    (column.withEnum enums).name = column.name := by
  unfold Column.withEnum
  split <;> rfl

@[simp]
theorem Column.type_withEnum (enums : Enums) (column : Column) :
    (column.withEnum enums).type = column.type := by
  unfold Column.withEnum
  split <;> rfl

/-- A column whose enum is left open. -/
def Column.withoutEnum (column : Column) :
    Column := { column with isEnum? := none, enumValues? := none }

/-- A table whose enums are left open. -/
def Table.withoutEnums (table : Table) : Table :=
  { table with columns := table.columns.map Column.withoutEnum }

/-- Settling tables does not change which keys lead somewhere. -/
theorem Table.unresolved?_settle (enums : Enums) (tables : List Table) (key : ForeignKey) :
    unresolved? (settle enums tables).result key = unresolved? tables key := by
  rw [result_settle]
  apply unresolved?_map (name_settled enums tables)
  intro table
  rw [columns_settled, List.map_map]
  congr 1
  funext column
  exact column.name_withEnum enums

end Schemagram
