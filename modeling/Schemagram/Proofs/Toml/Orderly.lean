import Schemagram.Proofs.Scan.Forms
import Schemagram.Proofs.Toml.Steps

/-!
# Every key once

Whatever statements a TOML text makes, the document that comes of them is orderly: no table in it,
however deep, holds a key twice.  Values are orderly as they are read, and what changes a table puts
an orderly value under a key of it, which keeps the key in its place if it was there.
-/

namespace Schemagram

/-! ### Finds -/

namespace Scan

variable {Found Other : Type} {holds : Found → Prop} {holdsMore : Other → Prop}

/-- A scan finds nothing but what has a property. -/
def Yields (holds : Found → Prop) (scan : Scan Found) : Prop :=
  ∀ text found rest, scan text = some (found, rest) → holds found

theorem yields_any (scan : Scan Found) : Yields (fun _ => True) scan := fun _ _ _ _ => trivial

theorem yields_pure {found : Found} (isHeld : holds found) :
    Yields holds (pure found : Scan Found) := by
  intro text result rest read
  rw [← (pure_eq_some.1 read).1]
  exact isHeld

theorem Yields.bind {scan : Scan Found} {more : Found → Scan Other} (yields : Yields holds scan)
    (yieldsMore : ∀ found, holds found → Yields holdsMore (more found)) :
    Yields holdsMore (scan >>= more) := by
  intro text result rest read
  rcases bind_eq_some.1 read with ⟨found, after, first, second⟩
  exact yieldsMore found (yields _ _ _ first) _ _ _ second

/-- What a scan finds behind another one that does not matter. -/
theorem yields_bind {scan : Scan Found} {more : Found → Scan Other}
    (yieldsMore : ∀ found, Yields holdsMore (more found)) : Yields holdsMore (scan >>= more) :=
  (yields_any scan).bind fun found _ => yieldsMore found

theorem Yields.orElse {first second : Scan Found} (yields : Yields holds first)
    (yieldsToo : Yields holds second) :
    Yields holds (first <|> second) := by
  intro text found rest read
  rcases orElse_eq_some.1 read with read | ⟨_, read⟩
  · exact yields _ _ _ read
  · exact yieldsToo _ _ _ read

theorem Yields.many {scan : Scan Found} (yields : Yields holds scan) :
    Yields (fun found => ∀ item ∈ found, holds item) (many scan) := by
  intro text
  fun_induction Scan.many scan text with
  | case1 text failed =>
    intro found rest read
    cases read
    exact List.forall_mem_nil _
  | case2 text first after isRead shorter ih =>
    intro found rest read
    rcases Option.map_eq_some_iff.1 read with ⟨⟨others, last⟩, more, same⟩
    cases same
    exact List.forall_mem_cons.2 ⟨yields _ _ _ isRead, ih _ _ more⟩
  | case3 text first after isRead notShorter =>
    intro found rest read
    cases read
    exact List.forall_mem_nil _

end Scan

namespace Toml

open Scan

/-! ### Tables -/

/-- A value in which no table holds a key twice. -/
inductive Orderly : Toml → Prop where
  | string (text : String) : Orderly (.string text)
  | boolean (value : Bool) : Orderly (.boolean value)
  | integer (value : Int) : Orderly (.integer value)
  | double (value : Double) : Orderly (.double value)
  | moment (value : Moment) : Orderly (.moment value)
  | array {items : List Toml} (orderly : ∀ item ∈ items, Orderly item) : Orderly (.array items)
  | table {members : Members} (distinct : (Keyed.keys members).Nodup)
      (orderly : ∀ member ∈ members, Orderly member.2) : Orderly (.table members)

theorem orderly_nil : Orderly (.table []) := .table List.nodup_nil (List.forall_mem_nil _)

namespace Orderly

variable {value : Toml} {members inner : Members} {key : String}

theorem distinct_keys (orderly : Orderly (.table members)) : (Keyed.keys members).Nodup := by
  cases orderly with
  | table distinct _ => exact distinct

theorem of_get? (orderly : Orderly (.table members)) (found : Keyed.get? key members = some value) :
    Orderly value := by
  cases orderly with
  | table distinct all => exact all _ ((Keyed.get?_eq_some_iff_mem distinct).1 found)

theorem put (orderly : Orderly (.table members)) (orderlyValue : Orderly value) :
    Orderly (.table (Keyed.put key value members)) := by
  have distinct := Keyed.nodup_keys_put key value orderly.distinct_keys
  refine .table distinct ?_
  rintro ⟨other, found⟩ mem
  have isFound := (Keyed.get?_eq_some_iff_mem distinct).2 mem
  rw [Keyed.get?_put] at isFound
  split at isFound
  · cases isFound
    exact orderlyValue
  · exact orderly.of_get? isFound

theorem of_opened? {reachesArrays : Bool} (orderly : Orderly value)
    (opened : value.opened? reachesArrays = some inner) : Orderly (.table inner) := by
  cases orderly with
  | table distinct all =>
    cases opened
    exact .table distinct all
  | @array items all =>
    unfold opened? at opened
    dsimp only at opened
    split at opened
    · rename_i isLast
      cases opened
      exact all _ (List.mem_of_getLast? isLast)
    · cases opened
  | _ => cases opened

theorem withOpened (orderly : Orderly value) (orderlyInner : Orderly (.table inner)) :
    Orderly (value.withOpened inner) := by
  cases orderly with
  | array all =>
    refine .array (List.forall_mem_append.2
      ⟨fun item mem => all item (List.dropLast_subset _ mem), ?_⟩)
    exact List.forall_mem_singleton.2 orderlyInner
  | _ => exact orderlyInner

end Orderly

/-- A change that makes no key stand twice. -/
def KeepsOrder (change : Option Toml → Option Toml) : Prop :=
  ∀ value? result, (∀ value ∈ value?, Orderly value) → change value? = some result → Orderly result

theorem keepsOrder_putNew {value : Toml} (orderly : Orderly value) : KeepsOrder (putNew value) := by
  intro value? result _ changed
  cases value? with
  | none =>
    cases changed
    exact orderly
  | some old => cases changed

theorem keepsOrder_openTable : KeepsOrder Draft.openTable := by
  intro value? result orderly opened
  cases value? with
  | none =>
    cases opened
    exact orderly_nil
  | some value =>
    rw [Draft.openTable] at opened
    split at opened
    · cases opened
      exact orderly result rfl
    · cases opened

theorem keepsOrder_startItem : KeepsOrder Draft.startItem := by
  intro value? result orderly started
  unfold Draft.startItem at started
  split at started
  · cases started
    exact .array (List.forall_mem_singleton.2 orderly_nil)
  · cases started
    cases orderly _ rfl with
    | array all =>
      exact .array (List.forall_mem_append.2 ⟨all, List.forall_mem_singleton.2 orderly_nil⟩)
  · cases started

theorem orderly_alter {reachesArrays : Bool} {change : Option Toml → Option Toml}
    (keeps : KeepsOrder change) {path : Path} {members result : Members}
    (orderly : Orderly (.table members))
    (altered : alter reachesArrays change path members = some result) :
    Orderly (.table result) := by
  induction path generalizing members result with
  | nil => exact absurd altered alter_nil_ne
  | cons key more ih =>
    cases more with
    | nil =>
      rcases alter_singleton.1 altered with ⟨value, changed, rfl⟩
      exact orderly.put (keeps _ _ (fun old isOld => orderly.of_get? isOld) changed)
    | cons next rest =>
      rcases alter_cons_cons.1 altered with ⟨value, isValue, inner, opened, changed, isChanged, rfl⟩
      have orderlyValue : Orderly value := by
        rw [← isValue]
        cases found : Keyed.get? key members with
        | none => exact orderly_nil
        | some old => exact orderly.of_get? found
      exact orderly.put (orderlyValue.withOpened (ih (orderlyValue.of_opened? opened) isChanged))

theorem orderly_add? {reachesArrays : Bool} {nest result : Nest} {path : Path} {value : Toml}
    (orderly : Orderly (.table nest.members)) (orderlyValue : Orderly value)
    (added : nest.add? reachesArrays path value = some result) :
    Orderly (.table result.members) := by
  rcases add?_eq_some.1 added with ⟨_, members, altered, rfl⟩
  exact orderly_alter (keepsOrder_putNew orderlyValue) orderly altered

/-- What is added step by step keeps a property that each step keeps. -/
theorem foldlM_keeps {State Step : Type} {step : State → Step → Option State} (keeps : State → Prop)
    {holds : Step → Prop}
    (each : ∀ state next result, keeps state → holds next → step state next = some result →
      keeps result) {steps : List Step} (all : ∀ next ∈ steps, holds next) {state result : State}
    (start : keeps state) (run : steps.foldlM step state = some result) : keeps result := by
  induction steps generalizing state with
  | nil =>
    cases run
    exact start
  | cons next more ih =>
    rw [List.foldlM_cons] at run
    rcases Option.bind_eq_some_iff.1 run with ⟨after, first, others⟩
    rw [List.forall_mem_cons] at all
    exact ih all.2 (each _ _ _ start all.1 first) others

theorem orderly_ofPairs? {pairs : List (Path × Toml)} (orderly : ∀ pair ∈ pairs, Orderly pair.2)
    {value : Toml} (read : ofPairs? pairs = some value) : Orderly value := by
  rcases Option.bind_eq_some_iff.1 read with ⟨nest, run, isValue⟩
  cases isValue
  refine foldlM_keeps (fun nest : Nest => Orderly (.table nest.members)) ?_ orderly orderly_nil run
  exact fun _ _ _ orderlyNest orderlyValue added => orderly_add? orderlyNest orderlyValue added

/-! ### Values -/

variable {Found : Type} {limit? : Option Nat}

/-- What is read has a property, unless the reading stops. -/
def IfRead (holds : Found → Prop) (read : Except Decimal.Excess Found) : Prop :=
  ∀ found, read = .ok found → holds found

theorem ifRead_ok {holds : Found → Prop} {found : Found} (isHeld : holds found) :
    IfRead holds (.ok found) := by
  rintro _ ⟨⟩
  exact isHeld

theorem ifRead_error {holds : Found → Prop} (excess : Decimal.Excess) :
    IfRead holds (.error excess) := by
  rintro _ ⟨⟩

theorem IfRead.map {Other : Type} {holds : Found → Prop} {holdsMore : Other → Prop}
    {make : Found → Other} {read : Except Decimal.Excess Found} (isHeld : IfRead holds read)
    (makes : ∀ found, holds found → holdsMore (make found)) : IfRead holdsMore (read.map make) := by
  cases read with
  | error excess => exact ifRead_error excess
  | ok found => exact ifRead_ok (makes found (isHeld found rfl))

theorem yields_stop (excess : Decimal.Excess) : Yields (IfRead Orderly) (stop excess) := by
  rintro text found rest ⟨⟩
  exact ifRead_error excess

theorem yields_decimalNumber : Yields (IfRead Orderly) (decimalNumber limit?) := by
  refine yields_bind fun _ => yields_bind fun _ => yields_bind fun _ => yields_bind fun _ => ?_
  split
  · dsimp only
    split
    · exact yields_stop _
    · exact yields_pure (ifRead_ok (.integer _))
  · exact yields_pure (ifRead_ok (.double _))

theorem yields_scalar : Yields (IfRead Orderly) (scalar limit?) := by
  have kind {Part : Type} {scan : Scan Part} {make : Part → Toml}
      (orderly : ∀ part, Orderly (make part)) :
      Yields Orderly (scan >>= fun part => pure (make part)) :=
    yields_bind fun part => yields_pure (orderly part)
  have ofWord : Yields Orderly wordNumber :=
    yields_bind fun _ => (kind fun _ => .double _).orElse (kind fun _ => .double _)
  have ofOthers : Yields Orderly unlimitedScalar :=
    (kind .string).orElse <| (kind fun _ => .boolean true).orElse <|
      (kind fun _ => .boolean false).orElse <|
      (kind .moment).orElse <| (kind .integer).orElse <| (kind .integer).orElse (kind .integer)
  have asRead {scan : Scan Toml} (yields : Yields Orderly scan) :
      Yields (IfRead Orderly) (scan >>= fun value => pure (.ok value)) :=
    yields.bind fun _ orderly => yields_pure (ifRead_ok orderly)
  exact (asRead ofOthers).orElse (yields_decimalNumber.orElse (asRead ofWord))

theorem yields_inlineTable {pairs : List (Path × Toml)} (orderly : ∀ pair ∈ pairs, Orderly pair.2)
    (excess? : Option Decimal.Excess) : Yields (IfRead Orderly) (inlineTable pairs excess?) := by
  have ofTable : Yields Orderly (liftM (ofPairs? pairs) : Scan Toml) := by
    intro text found rest read
    rcases Option.bind_eq_some_iff.1 read with ⟨table, isTable, same⟩
    cases same
    exact orderly_ofPairs? orderly isTable
  refine ofTable.bind fun table orderlyTable => ?_
  cases excess? with
  | none => exact yields_pure (ifRead_ok orderlyTable)
  | some excess => exact yields_stop excess

/-- Values, items and members are orderly: they are read from orderly parts with fewer steps. -/
theorem yields_value (steps : Nat) :
    Yields (IfRead Orderly) (value limit? steps) ∧
      Yields (IfRead fun found => ∀ item ∈ found, Orderly item) (items limit? steps) ∧
      Yields (fun found => ∀ pair ∈ found.1, Orderly pair.2) (pairs limit? steps) := by
  induction steps with
  | zero =>
    refine ⟨?_, ?_, ?_⟩ <;>
    · intro text found rest read
      cases read
  | succ steps ih =>
    rcases ih with ⟨ofValue, ofItems, ofPairs⟩
    refine ⟨?_, ?_, ?_⟩
    · refine .orElse ?_ (.orElse ?_ (.orElse ?_ yields_scalar))
      · exact yields_bind fun _ => yields_bind fun _ => ofItems.bind fun _ isHeld =>
          yields_pure (isHeld.map fun _ all => .array all)
      · exact yields_bind fun _ => yields_bind fun _ => yields_bind fun _ =>
          yields_pure (ifRead_ok orderly_nil)
      · exact yields_bind fun _ => yields_bind fun _ => ofPairs.bind fun found all =>
          yields_inlineTable all found.2
    · refine .orElse (yields_bind fun _ => yields_pure (ifRead_ok (List.forall_mem_nil _))) ?_
      refine ofValue.bind fun read isHeld => ?_
      cases read with
      | error excess => exact yields_pure (ifRead_error excess)
      | ok first =>
        have orderly := isHeld first rfl
        refine yields_bind fun _ => .orElse ?_ ?_
        · exact yields_bind fun _ => yields_pure (ifRead_ok (List.forall_mem_singleton.2 orderly))
        · exact yields_bind fun _ => yields_bind fun _ => ofItems.bind fun _ isHeld =>
            yields_pure (isHeld.map fun _ all => List.forall_mem_cons.2 ⟨orderly, all⟩)
    · refine yields_bind fun path => ofValue.bind fun read isHeld => ?_
      cases read with
      | error excess => exact yields_pure (List.forall_mem_nil _)
      | ok first =>
        have orderly := isHeld first rfl
        refine yields_bind fun _ => .orElse ?_ ?_
        · exact yields_bind fun _ => yields_pure (List.forall_mem_singleton.2 orderly)
        · exact yields_bind fun _ => yields_bind fun _ => ofPairs.bind fun _ all =>
            yields_pure (List.forall_mem_cons.2 ⟨orderly, all⟩)

/-! ### Statements -/

/-- A statement that puts no value with a repeated key. -/
def Statement.Orderly : Statement → Prop
  | .member _ value => Toml.Orderly value
  | _ => True

/-- Statements of which none puts a value with a repeated key. -/
def Reading.Orderly (reading : Reading) : Prop := ∀ statement ∈ reading.statements,
    statement.Orderly

theorem yields_line (steps : Nat) : Yields Reading.Orderly (line limit? steps) := by
  have ofStatement : Yields Reading.Orderly (statement limit? steps) := by
    refine .orElse ?_ (.orElse ?_ ?_)
    · exact yields_bind fun _ => yields_bind fun _ => yields_bind fun _ => yields_bind fun _ =>
        yields_pure (List.forall_mem_singleton.2 trivial)
    · exact yields_bind fun _ => yields_bind fun _ => yields_bind fun _ => yields_bind fun _ =>
        yields_bind fun _ =>
        yields_pure (List.forall_mem_singleton.2 trivial)
    · refine yields_bind fun _ => (yields_value steps).1.bind fun read isHeld => ?_
      cases read with
      | error excess => exact yields_pure (List.forall_mem_nil _)
      | ok value => exact yields_pure (List.forall_mem_singleton.2 (isHeld value rfl))
  have ofNothing : Yields Reading.Orderly (pure ⟨[], none⟩) := yields_pure (List.forall_mem_nil _)
  exact yields_bind fun _ => (ofStatement.orElse ofNothing).bind fun _ all => yields_bind fun _ =>
    yields_bind fun _ => yields_pure all

theorem orderly_of_statements? {text : List Char} {reading : Reading}
    (read : statements? limit? text = some reading) : reading.Orderly := by
  rcases Option.bind_eq_some_iff.1 read with ⟨⟨lines, rest⟩, isLines, goesOn⟩
  rcases Option.bind_eq_some_iff.1 goesOn with ⟨⟨last, left⟩, isLast, ends⟩
  dsimp only at isLast ends
  split at ends
  · cases ends
    have ofLine : Yields Reading.Orderly (line limit? (2 * (Text.joinLineEnds text).length + 2)) :=
      yields_line _
    have ofLines := (ofLine.bind fun _ all => yields_bind fun _ => yields_pure all).many _
      _ _ isLines
    refine List.forall_mem_append.2 ⟨?_, ofLine _ _ _ isLast⟩
    intro statement mem
    rcases List.mem_flatten.1 mem with ⟨found, isFound, isStatement⟩
    rcases List.mem_map.1 isFound with ⟨line, isLine, rfl⟩
    exact ofLines line isLine statement isStatement
  · cases ends

/-! ### Documents -/

/-- Every statement keeps a draft orderly. -/
theorem orderly_step? {draft result : Draft} {statement : Statement}
    (orderly : Orderly (.table draft.nest.members)) (orderlyToo : statement.Orderly)
    (done : draft.step? statement = some result) :
    Orderly (.table result.nest.members) := by
  cases statement with
  | tableHead path =>
    rcases Draft.tableHead?_eq_some.1 done with ⟨_, members, altered, rfl⟩
    exact orderly_alter keepsOrder_openTable orderly altered
  | itemHead path =>
    rcases Draft.itemHead?_eq_some.1 done with ⟨_, members, altered, rfl⟩
    exact orderly_alter keepsOrder_startItem orderly altered
  | member path value =>
    rcases Draft.member?_eq_some.1 done with ⟨_, nest, added, rfl⟩
    exact orderly_add? orderly orderlyToo added

theorem orderly_foldlM {statements : List Statement}
    (orderly : ∀ statement ∈ statements, statement.Orderly) {draft : Draft}
    (run : statements.foldlM Draft.step? Draft.empty = some draft) :
    Orderly (.table draft.nest.members) := by
  refine foldlM_keeps (fun draft : Draft => Orderly (.table draft.nest.members)) ?_ orderly
    orderly_nil run
  exact fun _ _ _ orderly orderlyToo done => orderly_step? orderly orderlyToo done

/-- No table of a document that is read holds a key twice. -/
theorem orderly_of_parse {text : List Char} {document : Members}
    (read : parse limit? text = .ok document) :
    Orderly (.table document) := by
  rcases parse_eq_ok_iff.1 read with ⟨statements, isRead, made⟩
  rcases Option.map_eq_some_iff.1 made with ⟨draft, run, rfl⟩
  exact orderly_foldlM (orderly_of_statements? isRead) run

end Toml

end Schemagram
