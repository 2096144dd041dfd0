import Schemagram.Dialect.Basic
import Schemagram.Files.Location

/-!
# Commands

The four things that can be asked for: the tables of a schema, its dialect, its diagram, and a
summary of a diagram document.
-/

namespace Schemagram

/-- The forms in which tables are printed. -/
inductive Format where
  | table
  | json
  deriving DecidableEq, Repr

/-- What can be asked for. -/
inductive Command where
  /-- The tables of a schema, read in a dialect or in the one that it shows, or by the strict
  grammar. -/
  | parse (schema : Location) (format : Format) (dialect? : Option Dialect) (isStrict : Bool)
  /-- The dialect of a schema. -/
  | dialect (schema : Location)
  /-- The diagram of a schema, laid out as a file says, and written to a file or printed. -/
  | diagram (schema : Location) (layout? output? : Option Location)
  /-- A summary of a diagram document. -/
  | inspect (document : Location)
  deriving DecidableEq, Repr

/-- A command, and whether the events on the way are printed. -/
structure Invocation where
  command : Command
  isVerbose : Bool
  deriving DecidableEq, Repr

end Schemagram
