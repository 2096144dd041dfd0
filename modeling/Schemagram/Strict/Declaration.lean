/-!
# Declarations of the strict grammar

The abstract form of a schema text: tables, enums and references in the order in which they are
written.

```text
schema     := (table | enum | reference)*
table      := "Table" NAME ("as" NAME)? "{" (note | attribute)* "}"
note       := "Note" ":" STRING
enum       := "Enum" NAME "{" ((NAME | STRING) ","?)* "}"
reference  := "Ref" NAME? ":" PATH ("<" | ">") PATH
attribute  := NAME type ("[" property ("," property)* "]")?
property   := "pk" | "nn" | "note" ":" STRING | "ref" ":" ("<" | ">") PATH
type       := NAME ("(" NUMBER ("," NUMBER)? ")")?
PATH       := NAME "." NAME
```

A table holds at most one note.
-/

namespace Schemagram.Strict

/-- A column named together with its table. -/
structure Path where
  table : String
  column : String
  deriving DecidableEq, Repr

/-- The dotted form of a path. -/
def Path.text (path : Path) : String := path.table ++ "." ++ path.column

/-- A type name with up to two sizes. -/
structure ColumnType where
  base : String
  sizes : List String
  deriving DecidableEq, Repr

/-- A type without any layout: the sizes in parentheses, with a bare comma between them. -/
def ColumnType.text (type : ColumnType) : String :=
  match type.sizes with
  | [] => type.base
  | sizes => type.base ++ "(" ++ String.intercalate "," sizes ++ ")"

/-- Which way a reference points. -/
inductive Arrow where
  /-- The left side holds the key. -/
  | left
  /-- The right side holds the key. -/
  | right
  deriving DecidableEq, Repr

/-- A property of a column. -/
inductive Property where
  | primaryKey
  | notNull
  | note (text : String)
  | reference (arrow : Arrow) (other : Path)
  deriving DecidableEq, Repr

/-- A column as it is declared. -/
structure ColumnDeclaration where
  name : String
  type : ColumnType
  properties : List Property
  deriving DecidableEq, Repr

/-- A line of a table. -/
inductive TableEntry where
  | note (text : String)
  | column (declaration : ColumnDeclaration)
  deriving DecidableEq, Repr

def TableEntry.isNote : TableEntry → Bool
  | .note _ => true
  | .column _ => false

/-- A top-level declaration. -/
inductive Declaration where
  | table (name : String) (alias? : Option String) (entries : List TableEntry)
  | enum (name : String) (members : List String)
  | reference (name? : Option String) (left : Path) (arrow : Arrow) (right : Path)
  deriving DecidableEq, Repr

end Schemagram.Strict
