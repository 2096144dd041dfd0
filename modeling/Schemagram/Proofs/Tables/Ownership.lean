import Schemagram.Proofs.Tables.Balance
import Schemagram.Proofs.Tables.Outline
import Schemagram.Proofs.Tables.Session
import Schemagram.Proofs.Scan.Search
import Schemagram.Schema

/-!
# Which table owns which key

Keys are attached one reference at a time and dropped at the end.  What comes of it can be read off
the text and the tables at once: a table owns the keys of those references whose owner's name it is
the first table of, in the order of the text, as far as the first table of the name that they refer
to has the column.

`Gives` says what a single step does to the table at each place; all steps together give each table
what they give it one by one, since no step changes what another one looks at.
-/

namespace Schemagram

open Scan

namespace Table

variable {Item : Type}

/-- A table with more keys behind its own. -/
def addKeys (keys : List ForeignKey) (table : Table) : Table :=
  { table with foreignKeys := table.foreignKeys ++ keys }

@[simp]
theorem addKeys_nil (table : Table) : table.addKeys [] = table := by
  simp [addKeys]

@[simp]
theorem addKeys_addKeys (keys more : List ForeignKey) (table : Table) :
    (table.addKeys keys).addKeys more = table.addKeys (keys ++ more) := by
  simp [addKeys]

/-- A step gives the table at each place the key that an item makes for it, if it makes one. -/
def Gives (keyAt? : List Table → Nat → Item → Option ForeignKey)
    (step : List Table → Item → Logged (List Table)) : Prop :=
  ∀ tables item, (step tables item).result =
    tables.mapIdx fun index table => table.addKeys (keyAt? tables index item).toList

theorem map_mapIdx {Old New Other : Type} (change : Nat → Old → New) (read : New → Other)
    (items : List Old) :
    (items.mapIdx change).map read = items.mapIdx fun index item => read (change index item) :=
  List.ext_getElem? fun index => by simp [Function.comp_def]

theorem mapIdx_map {Old New Other : Type} (change : Old → New) (read : Nat → New → Other)
    (items : List Old) :
    (items.map change).mapIdx read = items.mapIdx fun index item => read index (change item) :=
  List.ext_getElem? fun index => by simp [Function.comp_def]

theorem outline_mapIdx_addKeys (keysAt : Nat → List ForeignKey) (tables : List Table) :
    (tables.mapIdx fun index table => table.addKeys (keysAt index)).map outline =
      tables.map outline := by
  rw [map_mapIdx]
  exact mapIdx_eq_map outline tables

theorem findIdx?_congr {tables others : List Table} (same : tables.map outline = others.map outline)
    (name : String) :
    findIdx? tables name = findIdx? others name := by
  have byOutline (tables : List Table) :
      findIdx? tables name = (tables.map outline).findIdx? (·.name = name) := by
    rw [List.findIdx?_map]
    rfl
  rw [byOutline, same, ← byOutline]

theorem isSome_find?_eq (tables : List Table) (name : String) :
    (find? tables name).isSome = (findIdx? tables name).isSome := by
  rw [find?, findIdx?, List.findIdx?_isSome, Bool.eq_iff_iff, List.find?_isSome, List.any_eq_true]

/-- Attaching a key gives it to the first table of its owner's name. -/
theorem result_attach_eq_mapIdx (tables : List Table) (owner : String) (key : ForeignKey) :
    (attach tables owner key).result = tables.mapIdx fun index table =>
      table.addKeys (if findIdx? tables owner = some index then some key else none).toList := by
  have isChange : (attach tables owner key).result = (attach? tables owner key).getD tables := by
    unfold attach
    cases attach? tables owner key <;> rfl
  rw [isChange, attach?, getD_changeFirst?_eq_mapIdx]
  refine congrArg (tables.mapIdx ·) (funext fun index => funext fun table => ?_)
  change (if findIdx? tables owner = some index then _ else _) = _
  split
  · rfl
  · exact (addKeys_nil table).symm

/-- All steps together give each table the keys that they give it one by one, if these are seen from
the outlines of the tables. -/
theorem Gives.result_foldlM {keyAt? : List Table → Nat → Item → Option ForeignKey}
    {step : List Table → Item → Logged (List Table)} (gives : Gives keyAt? step)
    (outlined : ∀ tables others, tables.map outline = others.map outline →
      keyAt? tables = keyAt? others)
    (items : List Item) (tables : List Table) : (items.foldlM step tables).result =
      tables.mapIdx fun index table => table.addKeys (items.filterMap (keyAt? tables index)) := by
  induction items generalizing tables with
  | nil =>
    change tables = _
    simp [mapIdx_eq_map]
  | cons item more ih =>
    have sameOutline : (step tables item).result.map outline = tables.map outline := by
      rw [gives, outline_mapIdx_addKeys]
    rw [List.foldlM_cons, Logged.result_bind, ih, outlined _ _ sameOutline, gives,
      List.mapIdx_mapIdx]
    refine congrArg (tables.mapIdx ·) (funext fun index => funext fun table => ?_)
    rw [Function.comp_apply, addKeys_addKeys, List.filterMap_cons]
    cases keyAt? tables index item <;> rfl

theorem outline_settle (enums : Enums) (tables : List Table) :
    (settle enums tables).result.map outline = tables.map outline := by
  rw [result_settle, List.map_map]
  refine List.map_congr_left fun table _ => ?_
  simp [settled]

/-- What is left in the end are the keys that lead to a column of the tables. -/
theorem foreignKeys_settle (enums : Enums) (tables : List Table) :
    (settle enums tables).result.map foreignKeys =
      tables.map fun table => table.foreignKeys.filter (·.Leads (settle enums tables).result) := by
  have sameTest (key : ForeignKey) :
      (unresolved? tables key).isNone = decide (key.Leads (settle enums tables).result) := by
    rw [Bool.eq_iff_iff, Option.isNone_iff_eq_none, decide_eq_true_eq, ← unresolved?_settle enums]
    exact unresolved?_eq_none
  rw [result_settle, List.map_map, ← result_settle]
  refine List.map_congr_left fun table _ => ?_
  rw [Function.comp_apply, foreignKeys_settled]
  exact List.filter_congr fun key _ => sameTest key

/-- Tables that are given keys by one item after the other and then settled own, at each place,
their own keys and the ones that the items make for it, as far as they lead to a column. -/
theorem Gives.foreignKeys_settle {keyAt? : List Table → Nat → Item → Option ForeignKey}
    {step : List Table → Item → Logged (List Table)} (gives : Gives keyAt? step)
    (outlined : ∀ tables others, tables.map outline = others.map outline →
      keyAt? tables = keyAt? others)
    (enums : Enums) (items : List Item) (tables : List Table) {result : List Table}
    (isResult : result = (settle enums (items.foldlM step tables).result).result) :
    result.map foreignKeys = tables.mapIdx fun index table =>
      (table.foreignKeys ++ items.filterMap (keyAt? result index)).filter (·.Leads result) := by
  have attached := gives.result_foldlM outlined items tables
  have sameOutline : result.map outline = tables.map outline := by
    rw [isResult, outline_settle, attached, outline_mapIdx_addKeys]
  have settled := Table.foreignKeys_settle enums (items.foldlM step tables).result
  rw [← isResult] at settled
  rw [settled, attached, map_mapIdx, ← outlined _ _ sameOutline]
  rfl

end Table

/-! ### The keys that references make -/

/-- The key that a reference of the DBML dialect makes for the table at a place: the first table of
the name on the right gets it, if the first table of the name on the left has the column. -/
def Dbml.Reference.keyAt? (tables : List Table) (index : Nat) (reference : Dbml.Reference) :
    Option ForeignKey :=
  let key : ForeignKey := {
    column := reference.right.2
    referenceTable := reference.left.1
    referenceColumn := reference.left.2
    relation? := some (if reference.arrow = '-' then .oneToOne else .oneToMany) }
  if Table.findIdx? tables reference.right.1 = some index ∧ key.Leads tables then some key else none

/-- The key from one column to another for the table at a place, if it is the first one of its name
and there is a table of the other name. -/
def Shorthand.keyBetween? (tables : List Table) (index : Nat) (source target : String × String) :
    Option ForeignKey :=
  if Table.findIdx? tables source.1 = some index ∧ (Table.findIdx? tables target.1).isSome then
    some {
      column := source.2, referenceTable := target.1, referenceColumn := target.2,
      relation? := some .oneToMany }
  else none

/-- The key that a reference between two dotted columns makes for the table at a place. -/
def Shorthand.Reference.keyAt? (tables : List Table) (index : Nat)
    (reference : Shorthand.Reference) :
    Option ForeignKey :=
  if reference.arrow = '>' then keyBetween? tables index reference.left reference.right
  else keyBetween? tables index reference.right reference.left

/-- The keys of the lines between the braces of a table, of which only those with `>` count. -/
def Shorthand.inlineKeys (inside : List Char) : List ForeignKey :=
  ((linesOf inside).filterMap lineReference?).filterMap fun (column, target) =>
    if target.arrow = '>' then
      some {
        column, referenceTable := target.table, referenceColumn := target.column,
        relation? := some .oneToMany }
    else none

/-- The key of a reference for the table that owns it, wherever it leads. -/
def Dbml.Reference.ownedAt? (tables : List Table) (index : Nat) (reference : Dbml.Reference) :
    Option ForeignKey :=
  if Table.findIdx? tables reference.owner = some index then some reference.key else none

theorem Dbml.gives_attach :
    Table.Gives Dbml.Reference.ownedAt? fun tables reference =>
      Table.attach tables reference.owner reference.key :=
  fun tables reference => Table.result_attach_eq_mapIdx tables reference.owner reference.key

theorem Dbml.Reference.ownedAt?_congr (tables others : List Table)
    (same : tables.map Table.outline = others.map Table.outline) :
    Dbml.Reference.ownedAt? tables = Dbml.Reference.ownedAt? others := by
  funext index reference
  rw [ownedAt?, ownedAt?, Table.findIdx?_congr same]

theorem Dbml.Reference.filter_ownedAt? (tables : List Table) (index : Nat)
    (reference : Dbml.Reference) :
    (reference.ownedAt? tables index).filter (·.Leads tables) = reference.keyAt? tables index := by
  change _ = if Table.findIdx? tables reference.owner = some index ∧ reference.key.Leads tables then
    some reference.key else none
  unfold ownedAt?
  by_cases isOwner : Table.findIdx? tables reference.owner = some index
  · simp [isOwner, Option.filter]
  · simp [isOwner]

theorem Shorthand.Reference.keyAt?_eq (tables : List Table) (index : Nat)
    (reference : Shorthand.Reference) :
    reference.keyAt? tables index = keyBetween? tables index reference.source reference.target := by
  unfold keyAt? source target
  split <;> rfl

/-- A reference between two tables that are there gives its key to the one that refers. -/
theorem Shorthand.result_attach_eq (tables : List Table) (found : List Char × Shorthand.Reference) :
    (Shorthand.attach tables found).result =
      if (Table.findIdx? tables found.2.source.1).isSome ∧
      (Table.findIdx? tables found.2.target.1).isSome then
        (Table.attach tables found.2.source.1 found.2.key).result
      else tables := by
  have bothKnown : ((Table.find? tables found.2.left.1).isSome &&
      (Table.find? tables found.2.right.1).isSome) = true ↔
      (Table.findIdx? tables found.2.source.1).isSome ∧
      (Table.findIdx? tables found.2.target.1).isSome := by
    rw [Bool.and_eq_true, Table.isSome_find?_eq, Table.isSome_find?_eq]
    unfold Shorthand.Reference.source Shorthand.Reference.target
    split
    · rfl
    · exact and_comm
  unfold Shorthand.attach
  by_cases known : (Table.findIdx? tables found.2.source.1).isSome ∧
    (Table.findIdx? tables found.2.target.1).isSome
  · rw [if_pos known]
    exact congrArg Logged.result (if_pos (bothKnown.2 known))
  · rw [if_neg known]
    exact congrArg Logged.result (if_neg (mt bothKnown.1 known))

theorem Shorthand.gives_attach :
    Table.Gives (fun tables index (found : List Char × Shorthand.Reference) =>
      found.2.keyAt? tables index)
      Shorthand.attach := by
  intro tables found
  rw [Shorthand.result_attach_eq]
  simp only [Shorthand.Reference.keyAt?_eq, Shorthand.keyBetween?]
  split
  · rename_i known
    rw [Table.result_attach_eq_mapIdx]
    simp only [known.2, and_true]
    rfl
  · rename_i unknown
    have noKey (index : Nat) : ¬(Table.findIdx? tables found.2.source.1 = some index ∧
        (Table.findIdx? tables found.2.target.1).isSome) := by
      rintro ⟨isSource, isTarget⟩
      exact unknown ⟨by simp [isSource], isTarget⟩
    simp only [noKey, if_false, Option.toList_none, Table.addKeys_nil]
    exact ((mapIdx_eq_map id tables).trans (List.map_id tables)).symm

theorem Shorthand.Reference.keyAt?_congr (tables others : List Table)
    (same : tables.map Table.outline = others.map Table.outline) :
    (fun index (found : List Char × Shorthand.Reference) => found.2.keyAt? tables index) =
      fun index found => found.2.keyAt? others index := by
  funext index found
  simp only [keyAt?, keyBetween?, Table.findIdx?_congr same]

theorem Shorthand.foreignKeys_tableOf (name : String) (inside : List Char) :
    (tableOf name inside).foreignKeys = inlineKeys inside := by
  rw [inlineKeys, List.filterMap_filterMap]
  change (linesOf inside).filterMap (fun line => lineKey? line (column? line)) = _
  exact congrArg (List.filterMap · (linesOf inside)) (funext lineKey?_eq)

/-- The keys of the tables that are read are the ones that the references of the text make for them,
whatever the text is. -/
theorem foreignKeys_of_references (text : List Char) :
    (Dbml.parse text).result.map Table.foreignKeys =
      (all (block (keyword "Table")) text).mapIdx (fun index _ =>
        (all Dbml.reference text).filterMap
        (Dbml.Reference.keyAt? (Dbml.parse text).result index)) ∧
    (Shorthand.parse text).result.map Table.foreignKeys =
      (all (block (exactly "Table")) text).mapIdx fun index found =>
        (Shorthand.inlineKeys found.2 ++ (all Shorthand.reference text).filterMap
          (Shorthand.Reference.keyAt? (Shorthand.parse text).result index)).filter
            (·.Leads (Shorthand.parse text).result) := by
  constructor
  · have isResult : (Dbml.parse text).result =
        (Table.settle (Dbml.enums text) ((Dbml.references text).foldlM
        (fun tables reference => Table.attach tables reference.owner reference.key)
        (Dbml.tables text)).result).result := rfl
    rw [Dbml.gives_attach.foreignKeys_settle Dbml.Reference.ownedAt?_congr _ _ _ isResult,
      Dbml.tables, Table.mapIdx_map]
    refine congrArg (List.mapIdx · _) (funext fun index => funext fun found => ?_)
    rw [List.nil_append, List.filter_filterMap]
    exact congrArg (List.filterMap · _) (funext (Dbml.Reference.filter_ownedAt? _ index))
  · have isResult : (Shorthand.parse text).result = (Table.settle (Shorthand.enums text)
        ((Shorthand.references text).foldlM Shorthand.attach
          (Shorthand.tables text)).result).result := rfl
    rw [Shorthand.gives_attach.foreignKeys_settle Shorthand.Reference.keyAt?_congr _ _ _ isResult,
      Shorthand.tables, Table.mapIdx_map]
    refine congrArg (List.mapIdx · _) (funext fun index => funext fun found => ?_)
    rw [Shorthand.foreignKeys_tableOf, ← map_snd_all_withText, List.filterMap_map]
    rfl

end Schemagram
