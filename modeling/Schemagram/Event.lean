import Schemagram.Table
import Schemagram.Decimal.Natural
import Schemagram.Dialect.Basic
import Schemagram.Strict.Mismatch

/-!
# Events

What is reported while a description is read: every step returns the events it gave rise to, in
order, beside its result.
-/

namespace Schemagram

/-- Why a foreign key leads nowhere. -/
inductive Unresolved where
  | unknownTable
  | unknownColumn
  deriving DecidableEq, Repr

/-- The reason in words. -/
def Unresolved.message : Unresolved → String
  | .unknownTable => "unknown table"
  | .unknownColumn => "unknown column"

/-- Something worth reporting. -/
inductive Event where
  /-- The dialect was chosen from the text. -/
  | dialectDetected (dialect : Dialect)
  /-- The table blocks of a text have been read. -/
  | tablesRead (dialect : Dialect) (count : Nat)
  /-- A foreign key leads nowhere. -/
  | keyDropped (owner : String) (key : ForeignKey) (reason : Unresolved)
  /-- A reference between tables that are not both declared, as it is written. -/
  | referenceDropped (written : String)
  /-- Columns have been told the members of their enums. -/
  | enumsAttached (names : List String)
  /-- A text does not match the strict grammar. -/
  | grammarMismatch (mismatch : Strict.Mismatch)
  /-- A strict reference starts at no column. -/
  | sourceMissing (source target : String)
  /-- A diagram document has been read. -/
  | diagramLoaded (entities relationships : Nat)
  deriving DecidableEq, Repr

/-- Something that a step returns together with the events it gave rise to. -/
structure Logged (Result : Type) where
  result : Result
  events : List Event
  deriving Repr

instance : Monad Logged where
  pure result := ⟨result, []⟩
  bind first next :=
    let second := next first.result
    ⟨second.result, first.events ++ second.events⟩

namespace Logged

variable {First Second : Type}

@[simp]
theorem result_pure (result : First) : (pure result : Logged First).result = result := rfl

@[simp]
theorem events_pure (result : First) : (pure result : Logged First).events = [] := rfl

@[simp]
theorem result_bind (first : Logged First) (next : First → Logged Second) :
    (first >>= next).result = (next first.result).result := rfl

@[simp]
theorem events_bind (first : Logged First) (next : First → Logged Second) :
    (first >>= next).events = first.events ++ (next first.result).events := rfl

/-- Steps that report their events leave the result that the steps alone would. -/
theorem result_foldlM (step : First → Second → Logged First) (items : List Second) (start : First) :
    (items.foldlM step start).result =
      items.foldl (fun state item => (step state item).result) start := by
  induction items generalizing start with
  | nil => rfl
  | cons item more ih => rw [List.foldlM_cons, result_bind, ih, List.foldl_cons]

end Logged

def Logged.report (event : Event) : Logged Unit := ⟨(), [event]⟩

def Event.message : Event → String
  | .dialectDetected dialect => "Detected " ++ dialect.name ++ " dialect"
  | .tablesRead dialect count =>
    "Parsed " ++ Decimal.text count ++ " table(s) from " ++ dialect.title
  | .keyDropped owner key reason =>
    "Dropped reference " ++ owner ++ "." ++ key.column ++ " -> " ++ key.referenceTable ++ "." ++
      key.referenceColumn ++ ": " ++ reason.message
  | .referenceDropped written => "Dropped reference " ++ written ++ ": unknown table"
  | .enumsAttached names =>
    "Propagated " ++ Decimal.text names.length ++ " enum(s): " ++ String.intercalate ", " names
  | .grammarMismatch mismatch => "Schema grammar did not match: " ++ mismatch.message
  | .sourceMissing source target =>
    "Dropped reference " ++ source ++ " -> " ++ target ++ ": no such attribute"
  | .diagramLoaded entities relationships =>
    "Loaded diagram with " ++ Decimal.text entities ++ " entities and " ++
      Decimal.text relationships ++
      " relationships"

end Schemagram
