import Schemagram.Table
import Schemagram.Json.Basic

/-!
# Tables as JSON

The JSON form of tables.  What is not known about a column or a key has no member.
-/

namespace Schemagram

def Json.optionalMember (key : String) (value? : Option Json) : List (String × Json) :=
  (value?.map fun value => (key, value)).toList

def Column.toJson (column : Column) : Json := .ofMembers <|
  [("name", .ofString column.name), ("type", .ofString column.type),
    ("is_primary_key", .bool column.isPrimaryKey), ("is_nullable", .bool column.isNullable)] ++
  Json.optionalMember "is_enum" (column.isEnum?.map .bool) ++
  Json.optionalMember "enum_values" (column.enumValues?.map .ofStrings)

def ForeignKey.toJson (key : ForeignKey) : Json := .ofMembers <|
  [("column", .ofString key.column), ("reference_table", .ofString key.referenceTable),
    ("reference_column", .ofString key.referenceColumn)] ++
  Json.optionalMember "relation_type" (key.relation?.map fun relation => .ofString relation.text)

def Table.toJson (table : Table) : Json := .ofMembers [
  ("name", .ofString table.name), ("columns", .array (table.columns.map Column.toJson)),
  ("foreign_keys", .array (table.foreignKeys.map ForeignKey.toJson))]

end Schemagram
