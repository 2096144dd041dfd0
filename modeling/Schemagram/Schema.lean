import Schemagram.Dialect.Sql
import Schemagram.Dialect.Dbml
import Schemagram.Dialect.Shorthand

/-!
# Schema descriptions

Reading a description in a dialect that is given, or detected from the text.
-/

namespace Schemagram

namespace Dialect

/-- The dialect of a text: the words `create table` in any case make it SQL, the word `enum` in
small letters or with a capital makes it DBML, and everything else is shorthand. -/
def detect (text : List Char) : Dialect :=
  if Text.contains "create table".toList (Text.lower text) then .sql
  else if Text.contains "Enum".toList text || Text.contains "enum".toList text then .dbml
  else .shorthand

def parse : Dialect → List Char → Logged (List Table)
  | .sql => Sql.parse
  | .dbml => Dbml.parse
  | .shorthand => Shorthand.parse

/-- The dialect of a text, reported. -/
def detected (text : List Char) : Logged Dialect :=
  let dialect := detect text
  ⟨dialect, [.dialectDetected dialect]⟩

end Dialect

namespace Schema

/-- Reads a text in the given dialect, or in the one that the text shows. -/
def parse (text : String) (dialect? : Option Dialect) : Logged (List Table) := do
  let dialect ← match dialect? with
    | some dialect => pure dialect
    | none => Dialect.detected text.toList
  dialect.parse text.toList

/-- A dialect is asked for by a name that no dialect has. -/
structure UnknownDialect where
  name : String
  deriving DecidableEq, Repr

def UnknownDialect.message (fault : UnknownDialect) : String := "Unknown dialect: " ++ fault.name

/-- Reads a text in the dialect of a name; an empty name leaves the choice to the text. -/
def parseNamed (text : String) (name : String) : Except UnknownDialect (Logged (List Table)) :=
  if name.isEmpty then .ok (parse text none)
  else
    match Dialect.ofName? name with
    | some dialect => .ok (parse text (some dialect))
    | none => .error ⟨name⟩

end Schema

end Schemagram
