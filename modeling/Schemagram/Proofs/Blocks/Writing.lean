import Schemagram.Proofs.Scan.Types
import Schemagram.Proofs.Tables.Settling

/-!
# How a schema is written in blocks

What the two block notations have in common: the texts that say a schema by statements, which are a
block for each enum and for each table and a reference for each key, in any order.  White space is
free wherever a line does not end, and the settings of a column stand between brackets behind its
type, in any order.
-/

namespace Schemagram.Blocks

open Text Writing

/-! ### Columns -/

/-- What the options of a column can say. -/
inductive Setting where
  | primaryKey
  | notNull
  /-- The column refers to another one. -/
  | target (table column : String)

/-- A line of a table: a column, and the column that its options refer to. -/
structure Line where
  column : Column
  target? : Option (String × String)

namespace Line

/-- What has to be said about a column beside its name and its type. -/
def settings (line : Line) : List Setting :=
  (if line.column.isPrimaryKey then [.primaryKey] else []) ++
    (if line.column.isNullable then [] else [.notNull]) ++
    line.target?.toList.map fun (table, column) => .target table column

/-- The key that the options of a column make. -/
def key? (line : Line) : Option ForeignKey :=
  line.target?.map fun (table, column) =>
    { column := line.column.name, referenceTable := table, referenceColumn := column
      relation? := some .oneToMany }

end Line

def writtenDotted (table column : String) : Language Char :=
  exactly table.toList * (mark '.' * exactly column.toList)

/-- A name that holds neither of the short markers, in any case. -/
def IsQuiet (name : String) : Prop :=
  ¬"pk".toList <:+: lower name.toList ∧ ¬"nn".toList <:+: lower name.toList

/-- A reference in the options of a column.  Its names are not to be taken for markers. -/
def writtenTarget (table column : String) : Language Char :=
  {text | IsQuiet table ∧ IsQuiet column ∧ text ∈ keyword "ref" * (blanks * (mark ':' * (blanks *
    (mark '>' * (blanks * writtenDotted table column)))))}

def Setting.written : Setting → Language Char
  | primaryKey => keyword "primary key" + keyword "pk"
  | notNull => keyword "not null" + keyword "nn"
  | target table column => writtenTarget table column

/-- Settings in any order, with commas between them. -/
def writtenSettings (settings : List Setting) : Language Char :=
  {text | ∃ order : List Setting, order.Perm settings ∧ text ∈ listed (order.map Setting.written)}

/-- Settings between brackets; without any there are no brackets. -/
def writtenOptions (settings : List Setting) : Language Char :=
  if settings.isEmpty then 1 else blanks * (mark '[' * (writtenSettings settings * mark ']'))

/-- The texts of a language that hold no line end. -/
def inLine (language : Language Char) : Language Char := {text | text ∈ language ∧ '\n' ∉ text}

/-- A column with its type and its options. -/
def Line.written (line : Line) : Language Char :=
  inLine (exactly line.column.name.toList * (blank * (exactly line.column.type.toList *
    writtenOptions line.settings)))

/-! ### Blocks -/

/-- Items on lines of their own. -/
def onLines : List (Language Char) → Language Char
  | [] => blanks
  | [item] => blanks * (item * blanks)
  | item :: more => blanks * (item * (blanks * (mark '\n' * onLines more)))

def writtenBlock (opening : Language Char) (name : String) (inside : Language Char) :
    Language Char :=
  opening * (blank * (exactly name.toList * (blanks * (mark '\x7b' * (inside * mark '\x7d')))))

/-- The lines of a table, which say its columns and the keys that stand in its block. -/
def writtenLines (table : Table) : Language Char :=
  {text | ∃ lines : List Line, lines.map Line.column = table.columns ∧
    lines.filterMap Line.key? = table.foreignKeys ∧ text ∈ onLines (lines.map Line.written)}

/-! ### Statements -/

/-- A statement of a schema. -/
inductive Statement where
  | ofEnum (name : String) (members : List String)
  /-- A block with the keys that stand in it. -/
  | ofTable (table : Table)
  /-- A reference outside of the blocks, which gives a key to the table of the owner. -/
  | ofKey (owner : String) (key : ForeignKey)

namespace Statement

def enum? : Statement → Option (String × List String)
  | ofEnum name members => some (name, members)
  | _ => none

def block? : Statement → Option Table
  | ofTable table => some table
  | _ => none

def key? : Statement → Option (String × ForeignKey)
  | ofKey owner key => some (owner, key)
  | _ => none

end Statement

/-- The enums that statements declare. -/
def enumsOf (statements : List Statement) : Enums := statements.filterMap Statement.enum?

/-- The tables that statements declare.  The keys of references stand behind those of the block, in
the order of the references. -/
def tablesOf (statements : List Statement) : List Table :=
  (statements.filterMap Statement.block?).map (Table.withKeys (statements.filterMap Statement.key?))

/-- Statements one after the other, with white space between them. -/
def script : List (Language Char) → Language Char
  | [] => blanks
  | [item] => blanks * (item * blanks)
  | item :: more => blanks * (item * (blank * script more))

/-- How a dialect writes its statements: the word before a table, the members of an enum, the lines
of a table, and the reference that gives a key to its owner. -/
structure Style where
  opening : Language Char
  members : List String → Language Char
  lines : Table → Language Char
  reference : String → ForeignKey → Language Char

def Style.written (style : Style) : Statement → Language Char
  | .ofEnum name members => writtenBlock (keyword "enum") name (style.members members)
  | .ofTable table => writtenBlock style.opening table.name (style.lines table)
  | .ofKey owner key => style.reference owner key

/-! ### What can be written -/

/-- A column that a line can say; its enum is the one that its type names. -/
structure IsColumn (isType : List Char → Prop) (enums : Enums) (column : Column) : Prop where
  name : IsWord column.name.toList
  type : isType column.type.toList
  isOf : column.IsOf enums

/-- A key that a reference can say: it leads to a table, and its kind is one of those that there
are. -/
structure IsKey (relations : List RelationType) (tables : List Table) (key : ForeignKey) :
    Prop where
  column : IsWord key.column.toList
  leads : key.Leads tables
  relation : ∃ relation ∈ relations, key.relation? = some relation

/-- Statements of a schema: no two enums and no two tables share a name, and keys belong to tables
and lead to columns.  A notation has its own types and relations, and marks that members do
without. -/
structure IsSchema (isType : List Char → Prop) (relations : List RelationType) (marks : List Char)
    (statements : List Statement) : Prop where
  distinctEnums : (Keyed.keys (enumsOf statements)).Nodup
  enumNames : ∀ enum ∈ enumsOf statements, IsWord enum.1.toList
  members : ∀ enum ∈ enumsOf statements, ∀ member ∈ enum.2,
    member ≠ "" ∧ trim member.toList = member.toList ∧ ∀ char ∈ member.toList, char ∉ marks
  distinctTables : ((tablesOf statements).map Table.name).Nodup
  tableNames : ∀ table ∈ tablesOf statements, IsWord table.name.toList
  columns : ∀ table ∈ tablesOf statements, ∀ column ∈ table.columns,
    IsColumn isType (enumsOf statements) column
  keys : ∀ table ∈ tablesOf statements, ∀ key ∈ table.foreignKeys,
    IsKey relations (tablesOf statements) key
  owners : ∀ owner key, .ofKey owner key ∈ statements →
    ∃ table ∈ tablesOf statements, table.name = owner

end Schemagram.Blocks
