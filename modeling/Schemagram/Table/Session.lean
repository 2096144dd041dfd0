import Schemagram.Binding

/-!
# Sessions

Steps on a list of tables in any order: looking a table up, attaching a key, dropping the keys that
lead nowhere, and attaching enums.
-/

namespace Schemagram.Session

inductive Step where
  | find (name : String)
  | attach (owner : String) (key : ForeignKey)
  | drop
  | attachEnums (enums : Enums)
  deriving DecidableEq, Repr

/-- What a step answers. -/
inductive Answer where
  /-- The place of the table that was looked up. -/
  | place (place? : Option Nat)
  /-- Whether a key was attached. -/
  | attached (isAttached : Bool)
  | done
  deriving DecidableEq, Repr

/-- Runs a step: its answer, and the tables after it. -/
def Step.run (step : Step) (tables : List Table) : Logged (Answer × List Table) :=
  match step with
  | .find name => return (.place (Table.findIdx? tables name), tables)
  | .attach owner key => do
    let attached ← Table.attach tables owner key
    return (.attached (Table.attach? tables owner key).isSome, attached)
  | .drop => do
    let kept ← Table.dropDangling tables
    return (.done, kept)
  | .attachEnums enums => do
    let attached ← Table.attachEnums enums tables
    return (.done, attached)

def Step.apply (tables : List Table) (step : Step) : List Table := (step.run tables).result.2

/-- The tables after steps in order. -/
def run (tables : List Table) (steps : List Step) : List Table := steps.foldl Step.apply tables

end Schemagram.Session
