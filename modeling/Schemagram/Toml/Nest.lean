import Schemagram.Toml.Basic

/-!
# Nested tables

How a value is put where a path of keys leads.  A path leads through tables.  Where it meets an
array of tables it goes on in the last of them, unless the path is one of an inline table, which
reaches no array.

An array or a table that is written as one value is closed: nothing is put into it afterwards.
-/

namespace Schemagram.Toml

/-- The keys that lead to a value. -/
abbrev Path := List String

/-- The table that a value opens: itself, or the last item of an array that is reached. -/
def opened? (reachesArrays : Bool) : Toml → Option Members
  | .table members => some members
  | .array items =>
    match reachesArrays, items.getLast? with
    | true, some (.table members) => some members
    | _, _ => none
  | _ => none

/-- A value with another table in place of the one that it opens. -/
def withOpened (members : Members) : Toml → Toml
  | .array items => .array (items.dropLast ++ [.table members])
  | _ => .table members

/-- Changes the value that a path leads to, if there is one; tables that are missing on the way are
made.  Nothing comes of it if something on the way is no table, or if the change has no result. -/
def alter (reachesArrays : Bool) (change : Option Toml → Option Toml) :
    Path → Members → Option Members
  | [], _ => none
  | [key], members => do
    let value ← change (Keyed.get? key members)
    return Keyed.put key value members
  | key :: path, members => do
    let value := (Keyed.get? key members).getD (.table [])
    let inner ← value.opened? reachesArrays
    let inner ← alter reachesArrays change path inner
    return Keyed.put key (value.withOpened inner) members

/-- Whether a value is an array or a table. -/
def isNested : Toml → Bool
  | .array _ => true
  | .table _ => true
  | _ => false

/-- A table and the paths in it that lead to closed values. -/
structure Nest where
  members : Members
  closed : List Path

namespace Nest

/-- Whether a path leads to a closed value or into one. -/
def isClosed (nest : Nest) (path : Path) : Bool := nest.closed.any (·.isPrefixOf path)

/-- Puts a value where a path leads, if there is none yet. -/
def add? (reachesArrays : Bool) (nest : Nest) (path : Path) (value : Toml) : Option Nest := do
  guard !nest.isClosed path
  let members ← alter reachesArrays (fun | none => some value | some _ => none) path nest.members
  return ⟨members, if value.isNested then path :: nest.closed else nest.closed⟩

end Nest

/-- The inline table of paths and their values. -/
def ofPairs? (pairs : List (Path × Toml)) : Option Toml := do
  let nest ← pairs.foldlM (fun nest (path, value) => nest.add? false path value) (⟨[], []⟩ : Nest)
  return .table nest.members

end Schemagram.Toml
