import Schemagram.Strict.Table
import Schemagram.Table.Json

/-!
# Strict tables as JSON

The JSON form of the tables of the strict grammar.
-/

namespace Schemagram.Strict

def Column.toJson (column : Column) : Json := .ofMembers <|
  [("name", .ofString column.name), ("type", .ofString column.type),
    ("is_primary_key", .bool column.isPrimaryKey), ("is_nullable", .bool column.isNullable)] ++
  Json.optionalMember "note" (column.note?.map .ofString) ++
  Json.optionalMember "foreign_key" (column.foreignKey?.map .ofString) ++
  Json.optionalMember "foreign_key_name" (column.foreignKeyName?.map .ofString) ++
  Json.optionalMember "enum_values" (column.enumValues?.map .ofStrings)

def Table.toJson (table : Table) : Json := .ofMembers <|
  [("name", .ofString table.name), ("attributes", .array (table.columns.map Column.toJson))] ++
  Json.optionalMember "alias" (table.alias?.map .ofString) ++
  Json.optionalMember "note" (table.note?.map .ofString)

end Schemagram.Strict
