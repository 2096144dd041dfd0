import Mathlib.Data.List.Basic
import Schemagram.Proofs.Diagram.Building
import Schemagram.Schema

/-!
# Endpoints of relationships

Whatever the tables, an endpoint is at home in one of the entities: the source in the entity of the
table that owns the key, the target in the first entity of the table that the key refers to.  As ids
are made of the names of tables, an endpoint has no other entity exactly if no other table has the
name.

A text may declare two tables of one name, and both are read.  Then an endpoint may have two
entities, and its line may be missing in the first of them.
-/

namespace Schemagram

/-- An endpoint belongs to exactly one entity and points at one of its lines. -/
def Endpoint.IsSound (entities : List Entity) (endpoint : Endpoint) : Prop :=
  ∃ entity, entities.filter (·.id = endpoint.entityId) = [entity] ∧
    endpoint.attributeIndex < entity.attributes.length

/-- An endpoint points at a line of one of the entities with its id. -/
def Endpoint.IsAtHome (entities : List Entity) (endpoint : Endpoint) : Prop :=
  ∃ entity ∈ entities, entity.id = endpoint.entityId ∧
    endpoint.attributeIndex < entity.attributes.length

theorem Table.length_attributes_placed (layout : Layout) (tables : List Table) (table : Table)
    (index : Nat) : (table.placed layout tables index).attributes.length =
      table.columns.length := by
  rw [placed, List.length_map, List.length_zipIdx]

theorem Table.columnIndex_lt {table : Table} {column : String}
    (declared : table.columns.any (·.name = column) = true) :
    table.columnIndex column < table.columns.length := by
  rw [columnIndex, List.findIdx_lt_length]
  simpa using declared

theorem Table.exists_mem_zipIdx {tables : List Table} {table : Table} (mem : table ∈ tables) :
    ∃ index, (table, index) ∈ tables.zipIdx := by
  rw [← List.zipIdx_map_fst 0 tables] at mem
  rcases List.mem_map.1 mem with ⟨⟨_, index⟩, memIdx, rfl⟩
  exact ⟨index, memIdx⟩

namespace Diagram

variable {tables : List Table} {source : String} {layout : Layout} {relationship : Relationship}

theorem exists_key (mem : relationship ∈ (placed tables source layout).relationships) :
    ∃ table ∈ tables, ∃ key keyIndex, table.resolves tables key = true ∧
      relationship = key.relationship tables table keyIndex := by
  rcases List.mem_flatMap.1 mem with ⟨table, memTable, memOwn⟩
  rcases List.mem_map.1 memOwn with ⟨⟨key, keyIndex⟩, memKey, rfl⟩
  exact ⟨table, memTable, key, keyIndex, (List.mem_filter.1 memKey).2, rfl⟩

/-- The source of a relationship is at home in the entity of the table that owns its key. -/
theorem source_isAtHome (mem : relationship ∈ (placed tables source layout).relationships) :
    relationship.source.IsAtHome (placed tables source layout).entities := by
  rcases exists_key mem with ⟨table, memTable, key, keyIndex, resolved, rfl⟩
  rcases Table.exists_mem_zipIdx memTable with ⟨index, memIdx⟩
  rw [Table.resolves, Bool.and_eq_true] at resolved
  refine ⟨table.placed layout tables index, List.mem_map.2 ⟨_, memIdx, rfl⟩, rfl, ?_⟩
  rw [Table.length_attributes_placed]
  exact Table.columnIndex_lt resolved.1

/-- The first entity of an id is that of the first table of the name. -/
theorem find?_entities (source : String) (layout : Layout) {name : String} {target : Table}
    (isFirst : Table.find? tables name = some target) :
    ∃ index, (placed tables source layout).entities.find? (·.id = Entity.idOf name) =
      some (target.placed layout tables index) := by
  have sameId : ∀ other : String, Entity.idOf other = Entity.idOf name ↔ other = name :=
    fun other => String.append_right_inj "entity-"
  have byPlace : (tables.zipIdx.find? (·.1.name = name)).map Prod.fst = some target := by
    rw [← isFirst, Table.find?]
    conv => rhs; rw [← List.zipIdx_map_fst 0 tables, List.find?_map]
    rfl
  rcases Option.map_eq_some_iff.1 byPlace with ⟨⟨_, index⟩, found, rfl⟩
  refine ⟨index, ?_⟩
  have ids : (fun item : Table × Nat => decide (Entity.idOf item.1.name = Entity.idOf name)) =
      fun item => decide (item.1.name = name) := by
    funext item
    rw [decide_eq_decide]
    exact sameId item.1.name
  rw [placed, List.find?_map]
  change Option.map _ (tables.zipIdx.find? fun item =>
    decide (Entity.idOf item.1.name = Entity.idOf name)) = _
  rw [ids, found]
  rfl

/-- The target of a relationship points at a line of the first entity with its id. -/
theorem target_pointsAtFirst (mem : relationship ∈ (placed tables source layout).relationships) :
    ∃ entity, (placed tables source layout).entities.find? (·.id = relationship.target.entityId) =
        some entity ∧ relationship.target.attributeIndex < entity.attributes.length := by
  rcases exists_key mem with ⟨table, _, key, keyIndex, resolved, rfl⟩
  rw [Table.resolves, Bool.and_eq_true] at resolved
  rcases Option.any_eq_true _ _ |>.1 resolved.2 with ⟨target, isFirst, hasColumn⟩
  rcases find?_entities source layout isFirst with ⟨index, found⟩
  refine ⟨target.placed layout tables index, found, ?_⟩
  have place : key.targetIndex tables = target.columnIndex key.referenceColumn := by
    rw [ForeignKey.targetIndex, isFirst]
    rfl
  change key.targetIndex tables < _
  rw [Table.length_attributes_placed, place]
  exact Table.columnIndex_lt hasColumn

theorem target_isAtHome (mem : relationship ∈ (placed tables source layout).relationships) :
    relationship.target.IsAtHome (placed tables source layout).entities := by
  rcases target_pointsAtFirst mem with ⟨entity, found, points⟩
  exact ⟨entity, List.mem_of_find?_eq_some found, by simpa using List.find?_some found, points⟩

/-- As many entities have an id as tables have the name that it is made of. -/
theorem length_filter_entities (tables : List Table) (source : String) (layout : Layout)
    (id : String) :
    ((placed tables source layout).entities.filter (·.id = id)).length =
      (tables.filter (Entity.idOf ·.name = id)).length := by
  have ofEntities : (placed tables source layout).entities.map Entity.id =
      tables.map (Entity.idOf ·.name) := by
    have names := congrArg (List.map Entity.idOf) (names_placed tables source layout)
    rw [List.map_map, List.map_map] at names
    rw [← Function.comp_def Entity.idOf Table.name, ← names, placed, List.map_map, List.map_map]
    rfl
  have counted := congrArg (List.countP (· = id)) ofEntities
  rw [List.countP_map, List.countP_map] at counted
  rw [← List.countP_eq_length_filter, ← List.countP_eq_length_filter]
  exact counted

/-- An endpoint that is at home has no other entity exactly if one table only has the name. -/
theorem isSound_iff {endpoint : Endpoint}
    (isAtHome : endpoint.IsAtHome (placed tables source layout).entities) :
    endpoint.IsSound (placed tables source layout).entities ↔
      (tables.filter (Entity.idOf ·.name = endpoint.entityId)).length = 1 := by
  rw [← length_filter_entities tables source layout]
  constructor
  · rintro ⟨entity, only, _⟩
    rw [only, List.length_singleton]
  · intro one
    rcases List.length_eq_one_iff.1 one with ⟨entity, only⟩
    rcases isAtHome with ⟨home, memHome, sameId, points⟩
    have isHome : home ∈ (placed tables source layout).entities.filter (·.id = endpoint.entityId) :=
      List.mem_filter.2 ⟨memHome, by simpa using sameId⟩
    rw [only, List.mem_singleton] at isHome
    exact ⟨entity, only, isHome ▸ points⟩

end Diagram

/-! ### Descriptions that are read -/

/-- Every endpoint in the diagram of a text is at home, a target even in the first entity with its
id, and it has no other entity exactly if one table only has the name. -/
theorem Diagram.endpoints_of_parse {layout : Layout} (hasRows : layout.maxPerRow ≠ 0)
    (text : String) (dialect? : Option Dialect) (source : String) :
    ∃ diagram, ofTables (Schema.parse text dialect?).result source layout = .ok diagram ∧
      ∀ relationship ∈ diagram.relationships,
        (∃ entity, diagram.entities.find? (·.id = relationship.target.entityId) = some entity ∧
          relationship.target.attributeIndex < entity.attributes.length) ∧
        ∀ endpoint ∈ [relationship.source, relationship.target],
          endpoint.IsAtHome diagram.entities ∧
          (endpoint.IsSound diagram.entities ↔
            ((Schema.parse text dialect?).result.filter fun table =>
              "entity-" ++ table.name = endpoint.entityId).length = 1) := by
  refine ⟨placed _ source layout, ofTables_eq_ok hasRows _ source, ?_⟩
  intro relationship mem
  refine ⟨target_pointsAtFirst mem, ?_⟩
  intro endpoint memEnds
  have isAtHome : endpoint.IsAtHome
      (placed (Schema.parse text dialect?).result source layout).entities := by
    rcases List.mem_pair.1 memEnds with rfl | rfl
    · exact source_isAtHome mem
    · exact target_isAtHome mem
  exact ⟨isAtHome, isSound_iff isAtHome⟩

/-- A description that declares a table twice. -/
def Schema.namesakes : String :=
  "Table a \x7b\n id int\n\x7d\nTable b \x7b\n id int\n\x7d\nTable b \x7b\n x int\n y int [ref: > a.id]\n\x7d"

/-- The tables of that description. -/
def Schema.namesakeTables : List Table := [
  ⟨"a", [⟨"id", "int", false, true, some false, none⟩], []⟩,
  ⟨"b", [⟨"id", "int", false, true, some false, none⟩], []⟩,
  ⟨"b", [⟨"x", "int", false, true, some false, none⟩, ⟨"y", "int", false, true, some false, none⟩],
    [⟨"y", "a", "id", some .oneToMany⟩]⟩]

theorem Schema.parse_namesakes : (parse namesakes none).result = namesakeTables := by
  decide +kernel

theorem Diagram.relationships_namesakes (source : String) :
    (placed Schema.namesakeTables source Layout.standard).relationships =
      [⟨"relationship-b-0", ⟨"entity-b", 1⟩, ⟨"entity-a", 0⟩, .oneToMany⟩] := by
  change Schema.namesakeTables.flatMap _ = _
  decide +kernel

theorem Diagram.endpoints_of_parse_namesakes : Layout.standard.maxPerRow ≠ 0 ∧
    ∃ diagram, ofTables (Schema.parse Schema.namesakes none).result "" Layout.standard =
      .ok diagram ∧
      diagram.relationships = [⟨"relationship-b-0", ⟨"entity-b", 1⟩, ⟨"entity-a", 0⟩, .oneToMany⟩] ∧
      (⟨"entity-b", 1⟩ : Endpoint).IsAtHome diagram.entities ∧
      (⟨"entity-a", 0⟩ : Endpoint).IsSound diagram.entities := by
  have hasRows : Layout.standard.maxPerRow ≠ 0 := by decide
  rcases endpoints_of_parse hasRows Schema.namesakes none "" with ⟨diagram, built, sound⟩
  have same := (ofTables_eq_ok hasRows (Schema.parse Schema.namesakes none).result "").symm.trans
    built
  rw [Schema.parse_namesakes] at same sound
  cases same
  have relationships := relationships_namesakes ""
  rw [relationships] at sound
  have ends := (sound _ List.mem_cons_self).2
  refine ⟨hasRows, _, built, relationships, (ends _ List.mem_cons_self).1, ?_⟩
  exact (ends _ (List.mem_cons_of_mem _ List.mem_cons_self)).2.2 (by decide)

/-- The source of the one relationship has two entities, and no line in the first of them. -/
theorem Diagram.endpoint_of_namesakes : ¬ ∀ text dialect? diagram,
    ofTables (Schema.parse text dialect?).result text Layout.standard = .ok diagram →
      ∀ relationship ∈ diagram.relationships,
      ∀ endpoint ∈ [relationship.source, relationship.target],
        endpoint.IsSound diagram.entities := by
  intro sound
  have hasRows : Layout.standard.maxPerRow ≠ 0 := by decide
  have built := ofTables_eq_ok hasRows (Schema.parse Schema.namesakes none).result Schema.namesakes
  have ends := sound Schema.namesakes none _ built
  rw [Schema.parse_namesakes, relationships_namesakes] at ends
  rcases ends _ List.mem_cons_self _ List.mem_cons_self with ⟨entity, only, _⟩
  have two := congrArg List.length only
  rw [length_filter_entities] at two
  cases two

end Schemagram
