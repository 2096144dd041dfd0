/-!
# Tables

What a schema description declares: tables with their columns and the foreign keys they own.
-/

namespace Schemagram

/-- Declared enums with their members, in order of declaration. -/
abbrev Enums := List (String × List String)

structure Column where
  name : String
  /-- The type as it is written, sizes included. -/
  type : String
  isPrimaryKey : Bool
  isNullable : Bool
  /-- Whether the type names a declared enum; unknown until enums are attached. -/
  isEnum? : Option Bool := none
  /-- The members of the enum that the type named when enums were last attached to it. -/
  enumValues? : Option (List String) := none
  deriving DecidableEq, Repr

/-- How many rows may stand on each side of a relationship. -/
inductive RelationType where
  | oneToOne
  | oneToMany
  | manyToMany
  deriving DecidableEq, Repr

/-- The written form of a relation type. -/
def RelationType.text : RelationType → String
  | .oneToOne => "one-to-one"
  | .oneToMany => "one-to-many"
  | .manyToMany => "many-to-many"

/-- A foreign key: a column of the owning table that refers to a column of another table. -/
structure ForeignKey where
  column : String
  referenceTable : String
  referenceColumn : String
  relation? : Option RelationType := none
  deriving DecidableEq, Repr

/-- The relation type of a key; an unspecified one is one-to-many. -/
def ForeignKey.relation (key : ForeignKey) : RelationType := key.relation?.getD .oneToMany

structure Table where
  name : String
  columns : List Column
  foreignKeys : List ForeignKey
  deriving DecidableEq, Repr

end Schemagram
