import Schemagram.Proofs.Tables.Outline
import Schemagram.Table.Session

/-!
# What a session keeps

Whatever steps a session takes, its tables stay in their order and keep their names and columns;
only keys and enums change.  A key therefore leads somewhere at one time of the session exactly if
it does at any other, so that a key which has once been kept is never dropped again.

`changes_apply` says all that a step can do to the tables.  What one step keeps, a session keeps.
-/

namespace Schemagram

open Session (Step)

instance (tables : List Table) (key : ForeignKey) : Decidable (key.Leads tables) :=
  decidable_of_iff (Table.unresolved? tables key = none) Table.unresolved?_eq_none

@[simp]
theorem Column.withEnum_withEnum (enums : Enums) (column : Column) :
    (column.withEnum enums).withEnum enums = column.withEnum enums := by
  cases found : Keyed.get? column.type enums <;> simp [withEnum, found]

namespace Table

@[simp]
theorem withEnums_withEnums (enums : Enums) (table : Table) :
    (table.withEnums enums).withEnums enums = table.withEnums enums := by
  simp [withEnums]

/-- A table is the first one of a name. -/
structure IsFirst (tables : List Table) (name : String) (before : List Table) (table : Table)
    (after : List Table) : Prop where
  split : tables = before ++ table :: after
  others : ∀ earlier ∈ before, earlier.name ≠ name
  named : table.name = name

/-- A key is attached at the end of the first table of its owner's name, if there is such a
table. -/
theorem attach?_cases (tables : List Table) (owner : String) (key : ForeignKey) :
    (∃ before table after, IsFirst tables owner before table after ∧
      attach? tables owner key = some (before ++ table.withKey key :: after)) ∨
    (∀ table ∈ tables, table.name ≠ owner) ∧ attach? tables owner key = none := by
  cases attached : attach? tables owner key with
  | none =>
    right
    rw [attach?, changeFirst?_eq_none] at attached
    cases found : tables.find? (·.name = owner) with
    | none => simpa using found
    | some table =>
      rw [found] at attached
      cases attached
  | some changed =>
    left
    rcases changeFirst?_eq_some.1 attached with
      ⟨before, table, after, new, rfl, others, isOwner, isNew, rfl⟩
    cases isNew
    exact ⟨before, table, after, ⟨rfl, by simpa using others, by simpa using isOwner⟩, rfl⟩

/-! ### The index of columns -/

/-- Puts the columns of a table into an index, unless a table of its name is known there. -/
def indexNew (index : List (String × List String)) (table : Table) : List (String × List String) :=
  if (Keyed.get? table.name index).isSome then index
  else Keyed.put table.name (table.columns.map Column.name) index

/-- The columns of the first table of every name. -/
def columnsByName (tables : List Table) : List (String × List String) := tables.foldl indexNew []

theorem get?_columnsByName (tables : List Table) (name : String) :
    Keyed.get? name (columnsByName tables) = (find? tables name).map fun table =>
      table.columns.map Column.name := by
  -- What an index knows already counts before the tables that are still to come.
  have grown (index : List (String × List String)) : Keyed.get? name (tables.foldl indexNew index) =
      (Keyed.get? name index).or
      ((find? tables name).map fun table => table.columns.map Column.name) := by
    induction tables generalizing index with
    | nil => simp [find?]
    | cons table more ih =>
      rw [List.foldl_cons, ih]
      by_cases isNamed : table.name = name
      · subst isNamed
        cases known : Keyed.get? table.name index <;>
          simp [find?, indexNew, known, Keyed.get?_put_self]
      · cases known : Keyed.get? table.name index <;>
          simp [find?, indexNew, known, isNamed, Keyed.get?_put_of_ne (Ne.symm isNamed)]
  exact grown []

/-- A key leads somewhere exactly if its column stands in the index under its table. -/
theorem leads_iff_index (tables : List Table) (key : ForeignKey) : key.Leads tables ↔
    ∃ columns, Keyed.get? key.referenceTable (columnsByName tables) = some columns ∧
      key.referenceColumn ∈ columns := by
  simp [ForeignKey.Leads, get?_columnsByName]

/-! ### Dropping keys -/

/-- Dropping keeps exactly the keys that lead somewhere, in their order. -/
theorem result_dropDangling (tables : List Table) : (dropDangling tables).result =
    tables.map fun table =>
    { table with foreignKeys := table.foreignKeys.filter (·.Leads tables) } := by
  have sameTest : (fun key => (unresolved? tables key).isNone) = fun key =>
      decide (key.Leads tables) := by
    funext key
    rw [Bool.eq_iff_iff, Option.isNone_iff_eq_none, decide_eq_true_eq]
    exact unresolved?_eq_none
  refine List.map_congr_left fun table _ => ?_
  rw [withoutDangling, sameTest]

end Table

namespace Session

/-! ### Steps -/

/-- What a step can do to one of the tables: it gives it keys behind its own or drops those that
lead nowhere, and may change its enums. -/
structure Changes (tables : List Table) (old new : Table) : Prop where
  outline : new.outline = old.outline
  keys : old.foreignKeys <+: new.foreignKeys ∨
    new.foreignKeys = old.foreignKeys.filter (·.Leads tables)

theorem changes_refl (tables : List Table) (table : Table) : Changes tables table table :=
  ⟨rfl, .inl (List.prefix_refl _)⟩

/-- A step changes every table by itself, and keeps their order. -/
theorem changes_apply (tables : List Table) (step : Step) :
    List.Forall₂ (Changes tables) tables (step.apply tables) := by
  have unchanged (others : List Table) : List.Forall₂ (Changes tables) others others :=
    List.forall₂_same.2 fun table _ => changes_refl tables table
  have changed {change : Table → Table} (changes : ∀ table, Changes tables table (change table)) :
      List.Forall₂ (Changes tables) tables (tables.map change) :=
    List.forall₂_map_right_iff.2 (List.forall₂_same.2 fun table _ => changes table)
  cases step with
  | find name => exact unchanged tables
  | attach owner key =>
    have isAttached : (Step.attach owner key).apply tables =
      (Table.attach tables owner key).result := rfl
    rcases Table.result_attach tables owner key with same | ⟨before, table, after, split, attached⟩
    · rw [isAttached, same]
      exact unchanged tables
    · rw [isAttached, attached]
      conv => arg 2; rw [split]
      exact List.rel_append (unchanged before)
        (.cons ⟨rfl, .inl (List.prefix_append _ _)⟩ (unchanged after))
  | drop =>
    change List.Forall₂ _ tables (Table.dropDangling tables).result
    rw [Table.result_dropDangling]
    exact changed fun table => ⟨rfl, .inr rfl⟩
  | attachEnums enums =>
    exact changed fun table => ⟨table.outline_withEnums enums, .inl (List.prefix_refl _)⟩

theorem outline_apply (tables : List Table) (step : Step) :
    (step.apply tables).map Table.outline = tables.map Table.outline := by
  have same : List.Forall₂ (fun old new => old = new) (tables.map Table.outline)
      ((step.apply tables).map Table.outline) := by
    rw [List.forall₂_map_left_iff, List.forall₂_map_right_iff]
    exact (changes_apply tables step).imp fun _ _ changes => changes.outline.symm
  rw [List.forall₂_eq_eq_eq] at same
  exact same.symm

/-- The outlines of the tables are those at the beginning of a session, at any time of it. -/
theorem outline_run (tables : List Table) (steps : List Step) :
    (run tables steps).map Table.outline = tables.map Table.outline := by
  induction steps generalizing tables with
  | nil => rfl
  | cons step more ih => exact (ih (step.apply tables)).trans (outline_apply tables step)

/-! ### Keys that have been kept -/

theorem forall₂_trans {First Second Third : Type} {isFirst : First → Second → Prop}
    {isSecond : Second → Third → Prop} {isBoth : First → Third → Prop}
    (both : ∀ first second third, isFirst first second → isSecond second third → isBoth first third)
    {firsts : List First} {seconds : List Second} {thirds : List Third}
    (areFirst : List.Forall₂ isFirst firsts seconds)
    (areSecond : List.Forall₂ isSecond seconds thirds) :
    List.Forall₂ isBoth firsts thirds := by
  induction areFirst generalizing thirds with
  | nil =>
    cases areSecond
    exact .nil
  | cons first _ ih =>
    cases areSecond with
    | cons second more => exact .cons (both _ _ _ first second) (ih more)

/-- A table still owns the keys that it owned before, in their old places, and all of them lead
somewhere. -/
structure Keeps (tables : List Table) (before now : Table) : Prop where
  keys : before.foreignKeys <+: now.foreignKeys
  lead : ∀ key ∈ before.foreignKeys, key.Leads tables

theorem Keeps.changes {tables : List Table} {before now next : Table}
    (keeps : Keeps tables before now) (changes : Changes tables now next) :
    before.foreignKeys <+: next.foreignKeys := by
  rcases changes.keys with grown | dropped
  · exact keeps.keys.trans grown
  · have all : before.foreignKeys.filter (·.Leads tables) = before.foreignKeys := by
      simpa [List.filter_eq_self] using keeps.lead
    rw [dropped, ← all]
    exact keeps.keys.filter _

/-- No step drops a key that leads somewhere. -/
theorem keeps_apply {before tables : List Table} (keeps : List.Forall₂ (Keeps tables) before tables)
    (step : Step) : List.Forall₂ (Keeps (step.apply tables)) before (step.apply tables) := by
  refine forall₂_trans (fun old now next keeps changes => ?_) keeps (changes_apply tables step)
  refine ⟨keeps.changes changes, fun key mem => ?_⟩
  exact (Table.leads_congr (outline_apply tables step) key).2 (keeps.lead key mem)

/-- Keys that lead somewhere are kept as long as a session goes on. -/
theorem keeps_run {before tables : List Table} (keeps : List.Forall₂ (Keeps tables) before tables)
    (steps : List Step) : List.Forall₂ (Keeps (run tables steps)) before (run tables steps) := by
  induction steps generalizing tables with
  | nil => exact keeps
  | cons step more ih => exact ih (keeps_apply keeps step)

/-- After keys have been dropped, all that are left lead somewhere. -/
theorem leads_of_drop {tables : List Table} :
    ∀ table ∈ Step.drop.apply tables, ∀ key ∈ table.foreignKeys,
    key.Leads (Step.drop.apply tables) := by
  intro table mem key memKey
  rw [Table.leads_congr (outline_apply tables .drop)]
  change table ∈ (Table.dropDangling tables).result at mem
  rw [Table.result_dropDangling] at mem
  rcases List.mem_map.1 mem with ⟨before, _, rfl⟩
  simpa using (List.mem_filter.1 memKey).2

theorem apply_drop_of_leads {tables : List Table}
    (lead : ∀ table ∈ tables, ∀ key ∈ table.foreignKeys, key.Leads tables) :
    Step.drop.apply tables = tables := by
  change (Table.dropDangling tables).result = tables
  rw [Table.result_dropDangling]
  conv => rhs; rw [← List.map_id tables]
  refine List.map_congr_left fun table mem => ?_
  have all : table.foreignKeys.filter (·.Leads tables) = table.foreignKeys := by
    simpa [List.filter_eq_self] using lead table mem
  rw [all, id]

/-! ### The laws of a session -/

/-- A key is attached at the end of the first table of its owner's name, which is the one that is
found under that name.  When there is none, nothing is found and nothing changes. -/
def Attaches (tables : List Table) (owner : String) (key : ForeignKey) : Prop :=
  (∃ before table after, Table.IsFirst tables owner before table after ∧
    ((Step.find owner).run tables).result = (.place (some before.length), tables) ∧
    ((Step.attach owner key).run tables).result =
      (.attached true, before ++
        { table with foreignKeys := table.foreignKeys ++ [key] } :: after)) ∨
  (∀ table ∈ tables, table.name ≠ owner) ∧
    ((Step.find owner).run tables).result = (.place none, tables) ∧
    ((Step.attach owner key).run tables).result = (.attached false, tables)

/-- What holds of the tables at some time of a session that began with given tables. -/
structure Laws (start tables : List Table) : Prop where
  /-- The tables are those of the beginning, in their order and with their columns, keys and enums
  aside. -/
  outline : tables.map Table.outline = start.map Table.outline
  attaches : ∀ owner key, Attaches tables owner key
  /-- A key leads somewhere if its column is known of the first table that has the name of its
  table. -/
  index : ∀ key : ForeignKey, key.Leads tables ↔ ∃ columns,
    Keyed.get? key.referenceTable (Table.columnsByName tables) = some columns ∧
    key.referenceColumn ∈ columns
  /-- The keys that lead somewhere are kept, in their order. -/
  kept : Step.drop.apply tables =
    tables.map fun table => { table with foreignKeys := table.foreignKeys.filter (·.Leads tables) }
  leads : ∀ table ∈ Step.drop.apply tables, ∀ key ∈ table.foreignKeys,
    key.Leads (Step.drop.apply tables)
  /-- What has been kept once stays in its place, whatever steps follow. -/
  survives : ∀ steps, List.Forall₂ (fun kept later => kept.foreignKeys <+: later.foreignKeys)
    (Step.drop.apply tables) (run (Step.drop.apply tables) steps)
  dropAgain : Step.drop.apply (Step.drop.apply tables) = Step.drop.apply tables
  attachEnumsAgain : ∀ enums,
    (Step.attachEnums enums).apply ((Step.attachEnums enums).apply tables) =
    (Step.attachEnums enums).apply tables

theorem attaches (tables : List Table) (owner : String) (key : ForeignKey) :
    Attaches tables owner key := by
  have ran : ((Step.attach owner key).run tables).result =
      (.attached (Table.attach? tables owner key).isSome, (Table.attach tables owner key).result) :=
    rfl
  have found : ((Step.find owner).run tables).result =
    (.place (Table.findIdx? tables owner), tables) := rfl
  rw [Attaches, ran, found, Table.attach]
  rcases Table.attach?_cases tables owner key with
    ⟨before, table, after, isFirst, attached⟩ | ⟨others, notAttached⟩
  · left
    refine ⟨before, table, after, isFirst, ?_, by rw [attached]; rfl⟩
    have noneBefore : before.findIdx? (·.name = owner) = none := by
      simpa [List.findIdx?_eq_none_iff] using isFirst.others
    simp [Table.findIdx?, isFirst.split, List.findIdx?_append, noneBefore, List.findIdx?_cons,
      isFirst.named]
  · right
    refine ⟨others, ?_, by rw [notAttached]; rfl⟩
    have none : tables.findIdx? (·.name = owner) = none := by
      simpa [List.findIdx?_eq_none_iff] using others
    rw [Table.findIdx?, none]

/-- Whatever steps a session takes, its laws hold. -/
theorem laws_run (start : List Table) (steps : List Step) : Laws start (run start steps) where
  outline := outline_run start steps
  attaches := attaches _
  index := Table.leads_iff_index _
  kept := Table.result_dropDangling _
  leads := leads_of_drop
  survives := by
    intro more
    have keeps : List.Forall₂ (Keeps (Step.drop.apply (run start steps)))
        (Step.drop.apply (run start steps)) (Step.drop.apply (run start steps)) :=
      List.forall₂_same.2 fun table mem => ⟨List.prefix_refl _, leads_of_drop table mem⟩
    exact (keeps_run keeps more).imp fun _ _ keeps => keeps.keys
  dropAgain := apply_drop_of_leads leads_of_drop
  attachEnumsAgain := by
    intro enums
    change ((run start steps).map (Table.withEnums enums)).map (Table.withEnums enums) =
      (run start steps).map (Table.withEnums enums)
    simp

end Session

end Schemagram
