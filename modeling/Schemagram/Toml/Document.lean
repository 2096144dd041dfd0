import Schemagram.Toml.Statement

/-!
# TOML documents

The table that the statements of a text make, one after the other.  If the text stops at a number
with too many digits, the statements before it must still go together, or the text is no document at
all.

A table is declared once: by its head, or by a dotted key, which declares the tables on its way when
the next head stands.  A new item of an array of tables forgets what was declared in the one before.
-/

namespace Schemagram.Toml

/-- The paths on the way along a path, its end not among them. -/
def Path.way : Path → List Path
  | [] => []
  | [_] => []
  | key :: path => [key] :: (way path).map (key :: ·)

/-- A document in the making. -/
structure Draft where
  nest : Nest
  /-- The table in which keys stand now. -/
  head : Path
  /-- The tables that no head and no dotted key may declare again. -/
  declared : List Path
  /-- The tables on the way of dotted keys since the last head. -/
  passed : List Path

namespace Draft

/-- The draft before the first statement. -/
def empty : Draft := ⟨⟨[], []⟩, [], [], []⟩

/-- Opens the table that a path leads to. -/
def openTable : Option Toml → Option Toml
  | none => some (.table [])
  | some value => if (value.opened? true).isSome then some value else none

/-- Starts a new item of the array of tables that a path leads to. -/
def startItem : Option Toml → Option Toml
  | none => some (.array [.table []])
  | some (.array items) => some (.array (items ++ [.table []]))
  | some _ => none

/-- The draft after the head of a table. -/
def tableHead? (draft : Draft) (path : Path) : Option Draft := do
  let declared := draft.passed ++ draft.declared
  guard (!draft.nest.isClosed path && !declared.contains path)
  let members ← alter true openTable path draft.nest.members
  return ⟨⟨members, draft.nest.closed⟩, path, path :: declared, []⟩

/-- The draft after the head of an item. -/
def itemHead? (draft : Draft) (path : Path) : Option Draft := do
  guard !draft.nest.isClosed path
  let members ← alter true startItem path draft.nest.members
  let isOutside (other : Path) : Bool := !path.isPrefixOf other
  return {
    nest := ⟨members, draft.nest.closed.filter isOutside⟩
    head := path
    declared := path :: (draft.passed ++ draft.declared).filter isOutside
    passed := [] }

/-- The draft after a key and its value. -/
def member? (draft : Draft) (path : Path) (value : Toml) : Option Draft := do
  let passed := path.way.map (draft.head ++ ·)
  guard !passed.any draft.declared.contains
  let nest ← draft.nest.add? true (draft.head ++ path) value
  return { draft with nest, passed := passed ++ draft.passed }

def step? (draft : Draft) : Statement → Option Draft
  | .tableHead path => draft.tableHead? path
  | .itemHead path => draft.itemHead? path
  | .member path value => draft.member? path value

end Draft

def ofStatements? (statements : List Statement) : Option Members :=
  (statements.foldlM Draft.step? Draft.empty).map (·.nest.members)

/-- Why a text is not read as a document. -/
inductive Fault where
  /-- The text is not made of statements, or its statements do not go together. -/
  | unreadable
  | tooManyDigits (excess : Decimal.Excess)
  deriving DecidableEq, Repr

def parse (limit? : Option Nat) (text : List Char) : Except Fault Members :=
  match statements? limit? text with
  | none => .error .unreadable
  | some reading =>
    match ofStatements? reading.statements, reading.excess? with
    | none, _ => .error .unreadable
    | some _, some excess => .error (.tooManyDigits excess)
    | some document, none => .ok document

/-- A text is read as the document of its statements, if they reach to its end. -/
theorem parse_eq_ok_iff {limit? : Option Nat} {text : List Char} {document : Members} :
    parse limit? text = .ok document ↔
      ∃ statements, statements? limit? text = some ⟨statements, none⟩ ∧
      ofStatements? statements = some document := by
  rw [parse]
  split
  · rename_i absent
    simp [absent]
  · rename_i reading isRead
    rcases reading with ⟨statements, excess?⟩
    rw [isRead]
    cases made : ofStatements? statements <;> cases excess? <;> simp [made]

end Schemagram.Toml
