import Mathlib.Data.Option.Basic
import Schemagram.Proofs.Keyed
import Schemagram.Proofs.Toml.Orderly

/-!
# The order of lines in a table

Under the head of a table, plain lines that give values to keys may stand in any order.  Either all
orders are refused or all give the same document, but for the order of the members in that one
table.

What follows behind the lines may still change the table.  It does so alike in both documents, since
a statement goes by what is found under a key and never by its place.
-/

namespace Schemagram

/-! ### Steps side by side -/

section

variable {First Second Third Fourth Step : Type} {alike : First → Second → Prop}

theorem rel_bind {read : Option First} {other : Option Second} {next : First → Option Third}
    {otherNext : Second → Option Fourth} {alikeThen : Third → Fourth → Prop}
    (related : Option.Rel alike read other)
    (goOn : ∀ first second, alike first second →
      Option.Rel alikeThen (next first) (otherNext second)) :
    Option.Rel alikeThen (read >>= next) (other >>= otherNext) := by
  cases related with
  | none => exact .none
  | some isAlike => exact goOn _ _ isAlike

/-- The same step is done first on both sides. -/
theorem rel_bind_same {read : Option Third} {next : Third → Option First}
    {otherNext : Third → Option Second}
    (goOn : ∀ found, read = some found → Option.Rel alike (next found) (otherNext found)) :
    Option.Rel alike (read >>= next) (read >>= otherNext) := by
  cases read with
  | none => exact .none
  | some found => exact goOn found rfl

theorem rel_foldlM {step : First → Step → Option First} {otherStep : Second → Step → Option Second}
    (each : ∀ first second next, alike first second →
      Option.Rel alike (step first next) (otherStep second next))
    (steps : List Step) {first : First} {second : Second} (isAlike : alike first second) :
    Option.Rel alike (steps.foldlM step first) (steps.foldlM otherStep second) := by
  induction steps generalizing first second with
  | nil => exact .some isAlike
  | cons next more ih => exact rel_bind (each _ _ next isAlike) fun _ _ => ih

end

namespace Toml

variable {name : String} {document other : Members} {draft : Draft}

/-! ### Documents that differ in the order of one table -/

/-- Two documents are the same but for the order of the members in the table under one name. -/
structure Reordered (name : String) (document other : Members) : Prop where
  elsewhere : ∀ key, key ≠ name → Keyed.get? key document = Keyed.get? key other
  inside : ∃ members others, Keyed.get? name document = some (.table members) ∧
    Keyed.get? name other = some (.table others) ∧ (Keyed.keys members).Nodup ∧ members.Perm others

/-- The same value is put beside the table. -/
theorem Reordered.put {key : String} (reordered : Reordered name document other)
    (different : key ≠ name) (value : Toml) :
    Reordered name (Keyed.put key value document) (Keyed.put key value other) := by
  rcases reordered.inside with ⟨members, others, isTable, isTableToo, distinct, perm⟩
  refine ⟨fun found notName => ?_, members, others, ?_, ?_, distinct, perm⟩
  · rw [Keyed.get?_put, Keyed.get?_put, reordered.elsewhere found notName]
  · rw [Keyed.get?_put_of_ne different.symm, isTable]
  · rw [Keyed.get?_put_of_ne different.symm, isTableToo]

/-- Another table is put in the place of the old one. -/
theorem Reordered.putTable (reordered : Reordered name document other) {members others : Members}
    (distinct : (Keyed.keys members).Nodup) (perm : members.Perm others) :
    Reordered name (Keyed.put name (.table members) document)
    (Keyed.put name (.table others) other) := by
  refine ⟨fun key notName => ?_, members, others, Keyed.get?_put_self _ _ _,
    Keyed.get?_put_self _ _ _, distinct, perm⟩
  rw [Keyed.get?_put_of_ne notName, Keyed.get?_put_of_ne notName, reordered.elsewhere key notName]

/-- What is changed inside of a table is found by its key, wherever it stands. -/
theorem rel_alter {reachesArrays : Bool} {change : Option Toml → Option Toml} (path : Path)
    {members others : Members} (distinct : (Keyed.keys members).Nodup)
    (perm : members.Perm others) :
    Option.Rel (fun first second => (Keyed.keys first).Nodup ∧ first.Perm second)
      (alter reachesArrays change path members) (alter reachesArrays change path others) := by
  have same := fun key => Keyed.get?_eq_of_perm perm distinct key
  have puts (key : String) (value : Toml) :
      Option.Rel (fun first second : Members => (Keyed.keys first).Nodup ∧ first.Perm second)
        (some (Keyed.put key value members)) (some (Keyed.put key value others)) :=
    .some ⟨Keyed.nodup_keys_put key value distinct, Keyed.put_perm key value perm distinct⟩
  match path with
  | [] => exact .none
  | [key] =>
    rw [alter, alter, same key]
    exact rel_bind_same fun value _ => puts key value
  | key :: next :: rest =>
    rw [alter, alter, same key]
    · exact rel_bind_same fun inner _ => rel_bind_same fun changed _ => puts key _
    all_goals rintro ⟨⟩

/-- A change takes a table as it is, or refuses all tables. -/
def Settles (change : Option Toml → Option Toml) : Prop :=
  (∀ members, change (some (.table members)) = none) ∨
    ∀ members, change (some (.table members)) = some (.table members)

theorem Reordered.alter {reachesArrays : Bool} {change : Option Toml → Option Toml}
    (settles : Settles change) (reordered : Reordered name document other) (path : Path) :
    Option.Rel (Reordered name) (alter reachesArrays change path document)
    (alter reachesArrays change path other) := by
  rcases reordered.inside with ⟨members, others, isTable, isTableToo, distinct, perm⟩
  match path with
  | [] => exact .none
  | [key] =>
    rw [Toml.alter, Toml.alter]
    by_cases isName : key = name
    · rw [isName, isTable, isTableToo]
      rcases settles with refuses | keeps
      · rw [refuses, refuses]
        exact .none
      · rw [keeps, keeps]
        exact .some (reordered.putTable distinct perm)
    · rw [reordered.elsewhere key isName]
      exact rel_bind_same fun value _ => .some (reordered.put isName value)
  | key :: next :: rest =>
    rw [Toml.alter, Toml.alter]
    · by_cases isName : key = name
      · rw [isName, isTable, isTableToo]
        change Option.Rel _ (Toml.alter _ _ (next :: rest) members >>= _)
          (Toml.alter _ _ (next :: rest) others >>= _)
        exact rel_bind (rel_alter (next :: rest) distinct perm) fun first second alike =>
          .some (reordered.putTable alike.1 alike.2)
      · rw [reordered.elsewhere key isName]
        exact rel_bind_same fun inner _ => rel_bind_same fun changed _ =>
          .some (reordered.put isName _)
    all_goals rintro ⟨⟩

/-! ### Statements -/

namespace Draft

/-- Two drafts are the same but for the order of one table and of what is closed. -/
structure Reordered (name : String) (draft other : Draft) : Prop where
  members : Toml.Reordered name draft.nest.members other.nest.members
  closed : draft.nest.closed.Perm other.nest.closed
  head : draft.head = other.head
  declared : draft.declared = other.declared
  passed : draft.passed = other.passed

theorem settles_openTable : Settles openTable := .inr fun _ => rfl

theorem settles_startItem : Settles startItem := .inl fun _ => rfl

theorem settles_putNew (value : Toml) : Settles (putNew value) := .inl fun _ => rfl

variable {name : String} {draft other : Draft}

theorem Reordered.isClosed_eq (reordered : Reordered name draft other) (path : Path) :
    draft.nest.isClosed path = other.nest.isClosed path := reordered.closed.any_eq

theorem Reordered.add? (reordered : Reordered name draft other) (path : Path) (value : Toml) :
    Option.Rel (fun first second => Toml.Reordered name first.members second.members ∧
      first.closed.Perm second.closed)
      (draft.nest.add? true path value) (other.nest.add? true path value) := by
  rw [Nest.add?, Nest.add?, reordered.isClosed_eq]
  refine rel_bind_same fun _ _ => ?_
  refine rel_bind (reordered.members.alter (settles_putNew value) path) fun first second alike =>
    .some ⟨alike, ?_⟩
  split
  · exact reordered.closed.cons _
  · exact reordered.closed

/-- Every statement goes by keys, so that it does the same to both drafts. -/
theorem Reordered.step? (reordered : Reordered name draft other) (statement : Statement) :
    Option.Rel (Reordered name) (draft.step? statement) (other.step? statement) := by
  cases statement with
  | tableHead path =>
    rw [Draft.step?, Draft.step?, tableHead?, tableHead?, ← reordered.passed, ← reordered.declared,
      reordered.isClosed_eq path]
    refine rel_bind_same fun _ _ => ?_
    refine rel_bind (reordered.members.alter settles_openTable path) fun first second alike =>
      .some ?_
    exact ⟨alike, reordered.closed, rfl, rfl, rfl⟩
  | itemHead path =>
    rw [Draft.step?, Draft.step?, itemHead?, itemHead?, ← reordered.passed, ← reordered.declared,
      reordered.isClosed_eq path]
    refine rel_bind_same fun _ _ => ?_
    refine rel_bind (reordered.members.alter settles_startItem path) fun first second alike =>
      .some ?_
    exact ⟨alike, reordered.closed.filter _, rfl, rfl, rfl⟩
  | member path value =>
    rw [Draft.step?, Draft.step?, member?, member?, ← reordered.passed, ← reordered.declared,
      ← reordered.head]
    refine rel_bind_same fun _ _ => ?_
    exact rel_bind (reordered.add? _ value) fun first second alike =>
      .some ⟨alike.1, alike.2, rfl, rfl, rfl⟩

/-! ### Plain lines -/

/-- The line that gives a value to a key of the table in which it stands. -/
def assignment (pair : String × Toml) : Statement := .member [pair.1] pair.2

/-- The values that are closed among those of a table. -/
def closedIn (name : String) (pairs : Members) : List Path :=
  (pairs.filter (·.2.isNested)).map fun pair => [name, pair.1]

/-- A draft in which more pairs have been put behind the members of a table. -/
def withPairs (draft : Draft) (name : String) (members pairs : Members) : Draft :=
  { draft with nest := ⟨Keyed.put name (.table (members ++ pairs)) draft.nest.members,
      closedIn name pairs.reverse ++ draft.nest.closed⟩ }

/-- A draft stands in a table with some members. -/
structure StandsIn (name : String) (members : Members) (draft : Draft) : Prop where
  head : draft.head = [name]
  isTable : Keyed.get? name draft.nest.members = some (.table members)

variable {members pairs : Members}

theorem StandsIn.withPairs (stands : StandsIn name members draft) (pairs : Members) :
    StandsIn name (members ++ pairs) (draft.withPairs name members pairs) :=
  ⟨stands.head, Keyed.get?_put_self _ _ _⟩

/-- A line is taken if its key is new and not closed. -/
theorem StandsIn.step?_assignment (stands : StandsIn name members draft) (pair : String × Toml)
    {result : Draft} :
    draft.step? (assignment pair) = some result ↔
      (pair.1 ∉ Keyed.keys members ∧ draft.nest.isClosed [name, pair.1] = false) ∧
        draft.withPairs name members [pair] = result := by
  rcases pair with ⟨key, value⟩
  rw [← Keyed.get?_eq_none, assignment, Draft.step?, member?, Nest.add?, stands.head]
  cases isClosed : draft.nest.isClosed [name, key] with
  | true => simp [Path.way, isClosed]
  | false =>
    cases found : Keyed.get? key members with
    | some old => simp [Path.way, isClosed, alter, stands.isTable, opened?, found]
    | none =>
      have isPut := Keyed.put_of_not_mem value (Keyed.get?_eq_none.1 found)
      cases isNested : value.isNested <;>
        simp [Path.way, isClosed, alter, stands.isTable, opened?, found, Toml.withOpened, isPut,
          Draft.withPairs,
          closedIn, isNested, stands.head]

theorem StandsIn.withPairs_nil (stands : StandsIn name members draft) :
    draft.withPairs name members [] = draft := by
  simp [Draft.withPairs, closedIn, Keyed.put_of_get? stands.isTable]

theorem withPairs_cons (draft : Draft) (name : String) (members : Members) (pair : String × Toml)
    (more : Members) :
    (draft.withPairs name members [pair]).withPairs name (members ++ [pair]) more =
      draft.withPairs name members (pair :: more) := by
  simp [Draft.withPairs, closedIn, Keyed.put_put]

theorem isClosed_withPairs (draft : Draft) (members : Members) {pair : String × Toml} {key : String}
    (different : pair.1 ≠ key) :
    (draft.withPairs name members [pair]).nest.isClosed [name, key] =
      draft.nest.isClosed [name, key] := by
  cases isNested : pair.2.isNested <;>
    simp [Draft.withPairs, closedIn, Nest.isClosed, isNested, different]

/-- Lines with keys that are new, open and all different. -/
structure Fits (draft : Draft) (name : String) (members pairs : Members) : Prop where
  areNew : ∀ pair ∈ pairs, pair.1 ∉ Keyed.keys members
  areOpen : ∀ pair ∈ pairs, draft.nest.isClosed [name, pair.1] = false
  distinct : (Keyed.keys pairs).Nodup

theorem fits_cons {pair : String × Toml} {more : Members} : Fits draft name members (pair :: more) ↔
    (pair.1 ∉ Keyed.keys members ∧ draft.nest.isClosed [name, pair.1] = false) ∧
      Fits (draft.withPairs name members [pair]) name (members ++ [pair]) more := by
  have keysBehind : Keyed.keys (members ++ [pair]) = Keyed.keys members ++ [pair.1] :=
    List.map_append
  have keysBefore : Keyed.keys (pair :: more) = pair.1 :: Keyed.keys more := rfl
  constructor
  · rintro ⟨areNew, areOpen, distinct⟩
    rw [List.forall_mem_cons] at areNew areOpen
    rw [keysBefore, List.nodup_cons] at distinct
    have different : ∀ other ∈ more, pair.1 ≠ other.1 := by
      intro other mem same
      exact distinct.1 (same ▸ List.mem_map_of_mem mem)
    refine ⟨⟨areNew.1, areOpen.1⟩, fun other mem => ?_, fun other mem => ?_, distinct.2⟩
    · rw [keysBehind, List.mem_append, List.mem_singleton, not_or]
      exact ⟨areNew.2 other mem, (different other mem).symm⟩
    · rw [isClosed_withPairs draft members (different other mem)]
      exact areOpen.2 other mem
  · rintro ⟨⟨isNew, isOpen⟩, areNew, areOpen, distinct⟩
    simp only [keysBehind, List.mem_append, List.mem_singleton, not_or] at areNew
    refine ⟨List.forall_mem_cons.2 ⟨isNew, fun other mem => (areNew other mem).1⟩,
      List.forall_mem_cons.2 ⟨isOpen, fun other mem => ?_⟩, ?_⟩
    · rw [← isClosed_withPairs draft members (Ne.symm (areNew other mem).2)]
      exact areOpen other mem
    · rw [keysBefore, List.nodup_cons]
      refine ⟨fun mem => ?_, distinct⟩
      rcases List.mem_map.1 mem with ⟨other, isOther, same⟩
      exact (areNew other isOther).2 same

theorem Fits.perm {others : Members} (fits : Fits draft name members pairs)
    (perm : pairs.Perm others) :
    Fits draft name members others :=
  ⟨fun pair mem => fits.areNew pair (perm.mem_iff.2 mem), fun pair mem =>
    fits.areOpen pair (perm.mem_iff.2 mem),
    (perm.map Prod.fst).nodup_iff.1 fits.distinct⟩

/-- Lines that fit are put behind the members in their order, and others are refused. -/
theorem StandsIn.foldlM_assignments (stands : StandsIn name members draft) {result : Draft} :
    (pairs.map assignment).foldlM Draft.step? draft = some result ↔
      Fits draft name members pairs ∧ draft.withPairs name members pairs = result := by
  induction pairs generalizing members draft with
  | nil =>
    have fits : Fits draft name members [] :=
      ⟨List.forall_mem_nil _, List.forall_mem_nil _, List.nodup_nil⟩
    simp [stands.withPairs_nil, fits]
  | cons pair more ih =>
    rw [List.map_cons, List.foldlM_cons, Option.bind_eq_bind, Option.bind_eq_some_iff, fits_cons]
    simp only [stands.step?_assignment]
    constructor
    · rintro ⟨_, ⟨isNew, rfl⟩, run⟩
      rcases (ih (stands.withPairs [pair])).1 run with ⟨fits, rfl⟩
      exact ⟨⟨isNew, fits⟩, (withPairs_cons draft name members pair more).symm⟩
    · rintro ⟨⟨isNew, fits⟩, rfl⟩
      exact ⟨_, ⟨isNew, rfl⟩,
        (ih (stands.withPairs [pair])).2 ⟨fits, withPairs_cons draft name members pair more⟩⟩

/-- Lines that fit make the same draft in every order, but for the order of the members. -/
theorem Fits.reordered {others : Members} (fits : Fits draft name members pairs)
    (distinct : (Keyed.keys members).Nodup) (perm : pairs.Perm others) :
    Reordered name (draft.withPairs name members pairs) (draft.withPairs name members others) := by
  refine ⟨⟨fun key notName => ?_, members ++ pairs, members ++ others, Keyed.get?_put_self _ _ _,
    Keyed.get?_put_self _ _ _, ?_, perm.append_left members⟩, ?_, rfl, rfl, rfl⟩
  · simp only [Draft.withPairs, Keyed.get?_put_of_ne notName]
  · rw [Keyed.keys, List.map_append, List.nodup_append]
    refine ⟨distinct, fits.distinct, fun key inTable other inLines same => ?_⟩
    rcases List.mem_map.1 inLines with ⟨pair, mem, rfl⟩
    exact fits.areNew pair mem (same ▸ inTable)
  · have reversed := (List.reverse_perm pairs).trans (perm.trans (List.reverse_perm others).symm)
    exact ((reversed.filter _).map _).append_right _

/-- Plain lines may stand in any order. -/
theorem StandsIn.rel_assignments {others : Members} (stands : StandsIn name members draft)
    (distinct : (Keyed.keys members).Nodup) (perm : pairs.Perm others) :
    Option.Rel (Reordered name) ((pairs.map assignment).foldlM Draft.step? draft)
      ((others.map assignment).foldlM Draft.step? draft) := by
  -- Which lines there are decides whether they fit, so that all orders are taken or none is.
  by_cases fits : Fits draft name members pairs
  · rw [stands.foldlM_assignments.2 ⟨fits, rfl⟩, stands.foldlM_assignments.2 ⟨fits.perm perm, rfl⟩]
    exact .some (fits.reordered distinct perm)
  · have refused {lines : Members} (same : lines.Perm pairs) :
        (lines.map assignment).foldlM Draft.step? draft = none := by
      refine Option.eq_none_iff_forall_ne_some.2 fun result run => ?_
      exact fits ((stands.foldlM_assignments.1 run).1.perm same)
    rw [refused (.refl pairs), refused perm.symm]
    exact .none

/-! ### Where a head leads -/

/-- An array that stands under a name is declared or closed. -/
def Guards (name : String) (draft : Draft) : Prop :=
  ∀ items, Keyed.get? name draft.nest.members = some (.array items) →
    [name] ∈ draft.passed ++ draft.declared ∨ [name] ∈ draft.nest.closed

/-- An array under a name is put there, or it has grown out of an array. -/
theorem array_of_alter {reachesArrays : Bool} {change : Option Toml → Option Toml} {path : Path}
    {members result : Members} {items : List Toml}
    (altered : alter reachesArrays change path members = some result)
    (isArray : Keyed.get? name result = some (.array items)) :
    path = [name] ∧ change (Keyed.get? name members) = some (.array items) ∨
      path.isPrefixOf [name] = false ∧ ∃ old, Keyed.get? name members = some (.array old) := by
  match path with
  | [] => exact absurd altered alter_nil_ne
  | [key] =>
    rcases alter_singleton.1 altered with ⟨value, changed, rfl⟩
    rw [Keyed.get?_put] at isArray
    split at isArray
    · rename_i same
      cases isArray
      exact .inl ⟨congrArg (fun key => [key]) same.symm, same ▸ changed⟩
    · rename_i different
      exact .inr ⟨by simp [List.isPrefixOf, Ne.symm different], items, isArray⟩
  | key :: next :: rest =>
    rcases alter_cons_cons.1 altered with ⟨value, isValue, inner, opened, changed, isChanged, rfl⟩
    refine .inr ⟨by simp [List.isPrefixOf], ?_⟩
    rw [Keyed.get?_put] at isArray
    split at isArray
    · rename_i same
      -- An array with a new last item is an array, and a table with new members is a table.
      cases value with
      | array old =>
        cases found : Keyed.get? name members with
        | none =>
          rw [← same, found] at isValue
          cases isValue
        | some whole =>
          rw [← same, found] at isValue
          cases isValue
          exact ⟨old, rfl⟩
      | _ => cases isArray
    · exact ⟨items, isArray⟩

theorem guards_empty : Guards name empty := by
  rintro items ⟨⟩

theorem Guards.step? (guards : Guards name draft) {statement : Statement} {result : Draft}
    (done : draft.step? statement = some result) : Guards name result := by
  intro items isArray
  cases statement with
  | tableHead path =>
    rcases tableHead?_eq_some.1 done with ⟨_, members, altered, rfl⟩
    rcases array_of_alter altered isArray with ⟨isName, _⟩ | ⟨_, old, wasArray⟩
    · exact .inl (isName ▸ List.mem_cons_self)
    · exact (guards old wasArray).imp_left (List.mem_cons_of_mem _)
  | itemHead path =>
    rcases itemHead?_eq_some.1 done with ⟨_, members, altered, rfl⟩
    rcases array_of_alter altered isArray with ⟨isName, _⟩ | ⟨isOutside, old, wasArray⟩
    · exact .inl (isName ▸ List.mem_cons_self)
    · -- The new item is at another path, which forgets nothing of what is not below it.
      refine (guards old wasArray).imp (fun isDeclared => ?_) fun isClosed => ?_
      · exact List.mem_cons_of_mem _ (mem_outside.2 ⟨isDeclared, isOutside⟩)
      · exact mem_outside.2 ⟨isClosed, isOutside⟩
  | member path value =>
    rcases member?_eq_some.1 done with ⟨_, nest, added, rfl⟩
    rcases add?_eq_some.1 added with ⟨_, members, altered, rfl⟩
    rcases array_of_alter altered isArray with ⟨isName, isPut⟩ | ⟨_, old, wasArray⟩
    · have isValue : value = .array items := by
        unfold putNew at isPut
        split at isPut
        · exact Option.some.inj isPut
        · cases isPut
      rw [isName, isValue]
      exact .inr List.mem_cons_self
    · refine (guards old wasArray).imp (fun isDeclared => ?_) fun isClosed => ?_
      · rw [List.append_assoc]
        exact List.mem_append_right _ isDeclared
      · dsimp only
        split
        · exact List.mem_cons_of_mem _ isClosed
        · exact isClosed

/-- Behind the head of a table a draft stands in that table. -/
theorem Guards.standsIn_of_tableHead (guards : Guards name draft) {result : Draft}
    (done : draft.step? (.tableHead [name]) = some result) :
    ∃ members, StandsIn name members result := by
  rcases tableHead?_eq_some.1 done with ⟨⟨isOpen, isNew⟩, members, altered, rfl⟩
  rcases alter_singleton.1 altered with ⟨value, opened, rfl⟩
  have notClosed : [name] ∉ draft.nest.closed := by
    rw [Nest.isClosed, List.any_eq_false] at isOpen
    exact fun isClosed => isOpen [name] isClosed (by simp [List.isPrefixOf])
  have isTable : ∃ members, value = .table members := by
    cases found : Keyed.get? name draft.nest.members with
    | none =>
      rw [found] at opened
      cases opened
      exact ⟨[], rfl⟩
    | some old =>
      rw [found, openTable] at opened
      split at opened
      · cases opened
        cases value with
        | table members => exact ⟨members, rfl⟩
        | array items => exact ((guards items found).elim isNew notClosed).elim
        | _ => rename_i isTable; cases isTable
      · cases opened
  rcases isTable with ⟨members, rfl⟩
  exact ⟨members, rfl, Keyed.get?_put_self _ _ _⟩

theorem guards_foldlM {statements : List Statement}
    (run : statements.foldlM step? empty = some draft) :
    Guards name draft :=
  foldlM_keeps (Guards name) (fun _ _ _ guards _ done => guards.step? done) (fun _ _ => trivial)
    guards_empty run

end Draft

/-! ### Texts -/

/-- Statements among which plain lines stand under the head of a table. -/
def underHead (name : String) (before : List Statement) (pairs : Members) (after : List Statement) :
    List Statement :=
  before ++ .tableHead [name] :: (pairs.map Draft.assignment ++ after)

/-- Whether plain lines under a head stand in one order or in another, the documents are refused
alike, or the same but for the order of the members of the table. -/
theorem reordered_ofStatements? {before after : List Statement} {pairs others : Members}
    (orderly : ∀ statement ∈ before, statement.Orderly) (perm : pairs.Perm others) :
    Option.Rel (Reordered name) (ofStatements? (underHead name before pairs after))
      (ofStatements? (underHead name before others after)) := by
  have drafts : Option.Rel (Draft.Reordered name)
      ((underHead name before pairs after).foldlM Draft.step? .empty)
      ((underHead name before others after).foldlM Draft.step? .empty) := by
    simp only [underHead, List.foldlM_append, List.foldlM_cons]
    -- Up to the head both runs are one, so that both stand in the same table before the lines.
    refine rel_bind_same fun draft runBefore => rel_bind_same fun result done => ?_
    rcases (Draft.guards_foldlM runBefore).standsIn_of_tableHead done with ⟨members, stands⟩
    have isHead : Statement.Orderly (.tableHead [name]) := trivial
    have isOrderly := orderly_step? (orderly_foldlM orderly runBefore) isHead done
    refine rel_bind (stands.rel_assignments (isOrderly.of_get? stands.isTable).distinct_keys perm)
      ?_
    exact fun first second => rel_foldlM (fun _ _ statement alike => alike.step? statement) after
  simp only [ofStatements?, Option.map_eq_bind]
  exact rel_bind drafts fun first second alike => .some alike.members

theorem reordered_parse {limit? : Option Nat} {text other : List Char}
    {before after : List Statement} {pairs others : Members}
    (lines : statements? limit? text = some ⟨underHead name before pairs after, none⟩)
    (otherLines : statements? limit? other = some ⟨underHead name before others after, none⟩)
    (perm : pairs.Perm others) :
    Option.Rel (Reordered name) (parse limit? text).toOption (parse limit? other).toOption := by
  have parsed {text : List Char} {statements : List Statement}
      (read : statements? limit? text = some ⟨statements, none⟩) :
      (parse limit? text).toOption = ofStatements? statements := by
    rw [parse, read]
    dsimp only
    cases ofStatements? statements <;> rfl
  have orderly : ∀ statement ∈ underHead name before pairs after, statement.Orderly :=
    orderly_of_statements? lines
  rw [parsed lines, parsed otherLines]
  exact reordered_ofStatements? (List.forall_mem_append.1 orderly).1 perm

end Toml

end Schemagram
