import Schemagram.Proofs.Scan.Writing
import Schemagram.Proofs.Tables.Sound

/-!
# How a schema is written in SQL

The texts that say a schema in the SQL dialect: a statement for each enum and for each table, in any
order.  White space is free, keywords stand in any case, and the names of tables and columns may be
quoted.

A column that is not nullable and one that is a primary key say so by one of two markers.  A name
that begins like a primary key makes the second marker superfluous.
-/

namespace Schemagram.Sql

open Text Writing

/-! ### Languages -/

/-- A name, bare or between back-ticks or double quotes. -/
def writtenName (name : String) : Language Char :=
  exactly name.toList + mark backTick * (exactly name.toList * mark backTick) +
    mark '"' * (exactly name.toList * mark '"')

def writtenInParentheses (name : String) : Language Char :=
  blanks * (mark '(' * (blanks * (writtenName name * (blanks * mark ')'))))

def writtenKey (key : ForeignKey) : Language Char :=
  (keyword "FOREIGN" * (blank * keyword "KEY") + keyword "FK") *
    (writtenInParentheses key.column * (blanks * (keyword "REFERENCES" * (blank *
      (writtenName key.referenceTable * writtenInParentheses key.referenceColumn)))))

/-- A marker in one of its two forms. -/
def writtenMarker (long short : String) : Language Char := blank * (keyword long + keyword short)

/-- Whether a name begins like that of a primary key, in any case. -/
def IsKeyName (name : String) : Prop := "pk_".toList.isPrefixOf (lower name.toList) = true

/-- The marker of a column that is not nullable. -/
def writtenNotNull (column : Column) : Language Char :=
  if column.isNullable then 1 else writtenMarker "NOT NULL" "NN"

/-- Nothing at all, if the name of a column tells that it is a primary key. -/
def impliedByName (column : Column) : Language Char := {text | text = [] ∧ IsKeyName column.name}

def writtenPrimaryKey (column : Column) : Language Char :=
  if column.isPrimaryKey then writtenMarker "PRIMARY KEY" "PK" + impliedByName column else 1

/-- A column with its type and its markers. -/
def writtenColumn (column : Column) : Language Char :=
  writtenName column.name * (blank * (exactly column.type.toList *
    (writtenNotNull column * writtenPrimaryKey column)))

/-- What stands between two commas of a table. -/
def Fragment.written : Fragment → Language Char
  | ofKey key => writtenKey key
  | ofColumn column => writtenColumn column
  | nothing => 0

/-- The columns of a table, and its keys behind them. -/
def fragmentsOf (table : Table) : List Fragment :=
  table.columns.map Fragment.ofColumn ++ table.foreignKeys.map Fragment.ofKey

/-- The statement of a table with a name, whatever stands between its parentheses. -/
def writtenStatement (name : String) (inside : Language Char) : Language Char :=
  keyword "CREATE" * (blank * (keyword "TABLE" * (blank * (writtenName name * (blanks * (mark '(' *
    (inside * (mark ')' * (blanks * mark ';')))))))))

def writtenTable (table : Table) : Language Char :=
  keyword "CREATE" *
    (blank * (keyword "TABLE" * (blank * (writtenName table.name * (blanks * (mark '(' *
    (listed ((fragmentsOf table).map Fragment.written) * (mark ')' * (blanks * mark ';')))))))))

/-- A member of an enum between quotes. -/
def writtenMember (member : String) : Language Char := exactly ('\'' :: member.toList ++ ['\''])

def writtenEnum (name : String) (members : List String) : Language Char :=
  keyword "CREATE" *
    (blank * (keyword "TYPE" * (blank * (exactly name.toList * (blank * (keyword "AS" *
    (blank * (keyword "ENUM" * (blanks * (mark '(' * (listed (members.map writtenMember) *
      (mark ')' * (blanks * mark ';')))))))))))))

/-- The statement of an enum up to the parenthesis that closes its list. -/
def writtenEnumList (name : String) (members : List String) : Language Char :=
  keyword "CREATE" *
    (blank * (keyword "TYPE" * (blank * (exactly name.toList * (blank * (keyword "AS" *
    (blank * (keyword "ENUM" *
      (blanks * (mark '(' * (listed (members.map writtenMember) * mark ')')))))))))))

theorem writtenEnum_eq (name : String) (members : List String) :
    writtenEnum name members = writtenEnumList name members * (blanks * mark ';') := by
  simp only [writtenEnum, writtenEnumList, mul_assoc]

/-- A statement of a schema. -/
inductive Statement where
  | ofEnum (name : String) (members : List String)
  | ofTable (table : Table)

namespace Statement

def written : Statement → Language Char
  | ofEnum name members => writtenEnum name members
  | ofTable table => writtenTable table

/-- The enum that a statement declares. -/
def enum? : Statement → Option (String × List String)
  | ofEnum name members => some (name, members)
  | ofTable _ => none

/-- The table that a statement declares. -/
def table? : Statement → Option Table
  | ofEnum _ _ => none
  | ofTable table => some table

end Statement

/-- Statements one after the other, with any white space around them. -/
def script : List Statement → Language Char
  | [] => blanks
  | statement :: more => blanks * (statement.written * script more)

/-- Texts of some languages one after the other, with any white space around them. -/
def sequenced : List (Language Char) → Language Char
  | [] => blanks
  | first :: more => blanks * (first * sequenced more)

theorem script_eq_sequenced (statements : List Statement) :
    script statements = sequenced (statements.map Statement.written) := by
  induction statements with
  | nil => rfl
  | cons statement more ih => rw [script, ih, List.map_cons, sequenced]

/-! ### What can be written -/

/-- A column that a statement can say; its enum is the one that its type names. -/
structure IsColumn (enums : Enums) (column : Column) : Prop where
  name : IsWord column.name.toList
  type : IsWord column.type.toList ∨ ∃ base size, IsWord base ∧ IsDigits size ∧
    column.type.toList = base ++ '(' :: (size ++ [')'])
  primaryKey : IsKeyName column.name → column.isPrimaryKey = true
  isEnum : column.isEnum? = some (Keyed.get? column.type enums).isSome
  enumValues : column.enumValues? = Keyed.get? column.type enums

/-- A key whose names are words, and whose kind is left open. -/
structure IsClause (key : ForeignKey) : Prop where
  column : IsWord key.column.toList
  table : IsWord key.referenceTable.toList
  referenced : IsWord key.referenceColumn.toList
  relation : key.relation? = none

/-- A key that a statement can say: it leads to a table, and its kind is left open. -/
structure IsKey (tables : List Table) (key : ForeignKey) : Prop where
  column : IsWord key.column.toList
  leads : key.Leads tables
  relation : key.relation? = none

/-- Enums and tables that statements can say. -/
structure IsSchema (enums : Enums) (tables : List Table) : Prop where
  distinct : (Keyed.keys enums).Nodup
  enumNames : ∀ enum ∈ enums, IsWord enum.1.toList
  members : ∀ enum ∈ enums, ∀ member ∈ enum.2,
    member ≠ "" ∧ ∀ char ∈ member.toList, char ∉ ['\'', ',', '(', ')', ';']
  tableNames : ∀ table ∈ tables, IsWord table.name.toList
  columns : ∀ table ∈ tables, ∀ column ∈ table.columns, IsColumn enums column
  keys : ∀ table ∈ tables, ∀ key ∈ table.foreignKeys, IsKey tables key

end Schemagram.Sql
