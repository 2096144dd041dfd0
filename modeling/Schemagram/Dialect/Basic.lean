/-!
# Dialects

The notations in which a schema description may be written.
-/

namespace Schemagram

/-- A notation for schema descriptions. -/
inductive Dialect where
  /-- `CREATE TABLE` and `CREATE TYPE` statements. -/
  | sql
  /-- Table and enum blocks with `Ref:` lines. -/
  | dbml
  /-- Table and enum blocks with arrows in and between the lines. -/
  | shorthand
  deriving DecidableEq, Repr

namespace Dialect

/-- The name by which a dialect is chosen. -/
def name : Dialect → String
  | .sql => "sql"
  | .dbml => "dbml"
  | .shorthand => "simplified"

/-- The name of a dialect in a report. -/
def title : Dialect → String
  | .sql => "SQL"
  | .dbml => "DBML"
  | .shorthand => "shorthand"

def ofName? (name : String) : Option Dialect :=
  [Dialect.sql, .dbml, .shorthand].find? (·.name = name)

end Dialect

end Schemagram
