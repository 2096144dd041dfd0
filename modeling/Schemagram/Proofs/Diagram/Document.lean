import Mathlib.Data.List.Nodup
import Schemagram.Diagram.Document
import Schemagram.Proofs.Diagram.Building
import Schemagram.Proofs.Json.RoundTrip
import Schemagram.Proofs.Tables.Sound

/-!
# Documents of diagrams

The document of a diagram is read back as it was written, exactly if all of its tables have a name.

Every value of such a document lasts, so that its text is read as the same value; the check of its
shape then looks at the names only, because ids, kinds and endpoints are never empty.
-/

namespace Schemagram

open Text (CodePoint)

namespace Json

theorem ofChar_injective {char other : Char}
    (same : CodePoint.ofChar char = CodePoint.ofChar other) :
    char = other :=
  Char.toNat_inj.1 (Fin.mk.inj same)

theorem points_injective : Function.Injective points := by
  intro text other same
  have sameChars := (List.map_inj_right fun _ _ => ofChar_injective).1 same
  exact String.toList_inj.1 sameChars

theorem points_eq_nil {text : String} : points text = [] ↔ text = "" := by
  simp [points]

/-! ### Values that tell what they are made of -/

theorem ofString_injective : Function.Injective ofString := by
  intro text other same
  exact points_injective (Json.string.inj same)

theorem ofStrings_injective : Function.Injective ofStrings := by
  intro texts others same
  exact ofString_injective.list_map (Json.array.inj same)

/-! ### Values that last -/

variable {limit? : Option Nat}

theorem lasting_ofString (text : String) : Lasting limit? (ofString text) :=
  .string (joined_points text)

theorem lasting_ofStrings (texts : List String) : Lasting limit? (ofStrings texts) := by
  refine .array ?_
  intro item mem
  rcases List.mem_map.1 mem with ⟨text, _, rfl⟩
  exact lasting_ofString text

theorem keys_ofMembers (members : List (String × Json)) :
    Keyed.keys (members.map fun (key, value) => (points key, value)) =
      (members.map Prod.fst).map points := by
  rw [Keyed.keys, List.map_map, List.map_map]
  rfl

theorem nodup_points {names : List String} (distinct : names.Nodup) : (names.map points).Nodup :=
  distinct.map points_injective

theorem lasting_ofMembers {members : List (String × Json)} (distinct : (members.map Prod.fst).Nodup)
    (lasting : ∀ member ∈ members, Lasting limit? member.2) :
    Lasting limit? (ofMembers members) := by
  refine .object ?_ ?_ ?_
  · rw [keys_ofMembers]
    exact nodup_points distinct
  · intro member mem
    rcases List.mem_map.1 mem with ⟨⟨key, value⟩, _, rfl⟩
    exact joined_points key
  · intro member mem
    rcases List.mem_map.1 mem with ⟨⟨key, value⟩, memBefore, rfl⟩
    exact lasting _ memBefore

theorem get?_ofMembers (key : String) (members : List (String × Json)) :
    (ofMembers members).get? key = Keyed.get? key members := by
  unfold ofMembers get?
  induction members with
  | nil => rfl
  | cons member more ih =>
    simp only [List.map_cons, Keyed.get?]
    by_cases same : member.1 = key
    · simp [same]
    · have other : points member.1 ≠ points key := points_injective.ne same
      simp only [same, other, if_false]
      exact ih

end Json

namespace Document

open Json

/-! ### Documents that tell their diagrams -/

theorem ofEntity_injective : Function.Injective ofEntity := by
  rintro ⟨id, name, attributes, ⟨x, y⟩⟩ ⟨otherId, otherName, otherAttributes, ⟨otherX, otherY⟩⟩ same
  simp only [ofEntity, ofMembers, List.map_cons, List.map_nil, Json.object.injEq, List.cons.injEq,
    Prod.mk.injEq, true_and, and_true, ofString_injective.eq_iff, ofStrings_injective.eq_iff,
    Json.integer.injEq] at same
  rcases same with ⟨rfl, rfl, rfl, rfl, rfl⟩
  rfl

theorem ofEndpoint_injective : Function.Injective ofEndpoint := by
  rintro ⟨id, index⟩ ⟨otherId, otherIndex⟩ same
  simp only [ofEndpoint, ofMembers, ofNat, List.map_cons, List.map_nil, Json.object.injEq,
    List.cons.injEq, Prod.mk.injEq, true_and, and_true, ofString_injective.eq_iff,
    Json.integer.injEq, Int.natCast_inj] at same
  rcases same with ⟨rfl, rfl⟩
  rfl

theorem text_injective : Function.Injective RelationType.text := by
  intro type other same
  cases type <;> cases other <;> first | rfl | exact absurd same (by decide)

theorem ofRelationship_injective : Function.Injective ofRelationship := by
  rintro ⟨id, source, target, type⟩ ⟨otherId, otherSource, otherTarget, otherType⟩ same
  simp only [ofRelationship, ofMembers, List.map_cons, List.map_nil, Json.object.injEq,
    List.cons.injEq, Prod.mk.injEq, true_and, and_true, ofString_injective.eq_iff,
    ofEndpoint_injective.eq_iff, text_injective.eq_iff] at same
  rcases same with ⟨rfl, rfl, rfl, rfl⟩
  rfl

/-- The document of a diagram tells the diagram. -/
theorem ofDiagram_injective : Function.Injective ofDiagram := by
  rintro ⟨entities, relationships, enumData, source⟩ ⟨otherEntities, otherRelationships, otherEnums,
    otherSource⟩ same
  rcases Document.mk.inj same with ⟨sameEntities, sameRelationships, sameEnums, sameSource⟩
  have enumsInjective : Function.Injective fun enum : String × List String =>
      (points enum.1, ofStrings enum.2) := by
    rintro ⟨name, members⟩ ⟨otherName, otherMembers⟩ same
    exact Prod.ext (points_injective (Prod.mk.inj same).1)
      (ofStrings_injective (Prod.mk.inj same).2)
  cases ofEntity_injective.list_map sameEntities
  cases ofRelationship_injective.list_map sameRelationships
  cases enumsInjective.list_map sameEnums
  cases points_injective sameSource
  rfl

/-! ### Values of a document -/

theorem lasting_ofEntity (entity : Entity) : Lasting none (ofEntity entity) := by
  refine lasting_ofMembers (by simp) ?_
  simp only [List.forall_mem_cons, List.not_mem_nil, false_implies, implies_true, and_true]
  refine ⟨lasting_ofString _, lasting_ofString _, lasting_ofStrings _, ?_⟩
  refine lasting_ofMembers (by simp) ?_
  simp only [List.forall_mem_cons, List.not_mem_nil, false_implies, implies_true, and_true]
  exact ⟨.integer rfl, .integer rfl⟩

theorem lasting_ofEndpoint (endpoint : Endpoint) : Lasting none (ofEndpoint endpoint) := by
  refine lasting_ofMembers (by simp) ?_
  simp only [List.forall_mem_cons, List.not_mem_nil, false_implies, implies_true, and_true]
  exact ⟨lasting_ofString _, .integer rfl⟩

theorem lasting_ofRelationship (relationship : Relationship) :
    Lasting none (ofRelationship relationship) := by
  refine lasting_ofMembers (by simp) ?_
  simp only [List.forall_mem_cons, List.not_mem_nil, false_implies, implies_true, and_true]
  exact ⟨lasting_ofString _, lasting_ofEndpoint _, lasting_ofEndpoint _, lasting_ofString _⟩

theorem lasting_enumData {enums : Enums} (distinct : (Keyed.keys enums).Nodup) :
    Lasting limit? (.object
      (enums.map fun (name, members) => (points name, .ofStrings members))) := by
  have asMembers : Json.object
      (enums.map fun (name, members) => (points name, Json.ofStrings members)) =
      ofMembers (enums.map fun (name, members) => (name, .ofStrings members)) := by
    rw [ofMembers, List.map_map]
    rfl
  rw [asMembers]
  refine lasting_ofMembers ?_ ?_
  · rw [List.map_map]
    exact distinct
  · intro member mem
    rcases List.mem_map.1 mem with ⟨⟨name, members⟩, _, rfl⟩
    exact lasting_ofStrings members

theorem lasting_toJson {diagram : Diagram} (distinct : (Keyed.keys diagram.enumData).Nodup) :
    Lasting none (ofDiagram diagram).toJson := by
  refine lasting_ofMembers (by simp) ?_
  simp only [List.forall_mem_cons, List.not_mem_nil, false_implies, implies_true, and_true]
  refine ⟨.array ?_, .array ?_, lasting_enumData distinct, .string (joined_points _)⟩
  · intro value mem
    rcases List.mem_map.1 mem with ⟨entity, _, rfl⟩
    exact lasting_ofEntity entity
  · intro value mem
    rcases List.mem_map.1 mem with ⟨relationship, _, rfl⟩
    exact lasting_ofRelationship relationship

/-! ### The check -/

/-- What reading makes of the JSON form of a document. -/
theorem result_ofJson_toJson (document : Document) :
    (ofJson document.toJson).result =
      if !document.entities.all isEntity then .error .invalidEntity
      else if !document.relationships.all isRelationship then .error .invalidRelationship
      else .ok document := by
  have entities : document.toJson.get? "entities" = some (.array document.entities) := by
    rw [toJson, get?_ofMembers]
    simp [Keyed.get?]
  have relationships :
      document.toJson.get? "relationships" = some (.array document.relationships) := by
    rw [toJson, get?_ofMembers]
    simp [Keyed.get?]
  have enumData : document.toJson.get? "enum_data" = some (.object document.enumData) := by
    rw [toJson, get?_ofMembers]
    simp [Keyed.get?]
  have source : document.toJson.get? "source" = some (.string document.source) := by
    rw [toJson, get?_ofMembers]
    simp [Keyed.get?]
  have isDocument : isObject document.toJson = true := rfl
  simp only [ofJson, isDocument, if_true, lists?, entities, relationships, enumDataOf,
    enumData, sourceOf, source]

theorem isPresent_ofString {text : String} : (ofString text).isPresent = true ↔ text ≠ "" := by
  simp [ofString, isPresent, points_eq_nil]

theorem isPresent_ofEndpoint (endpoint : Endpoint) : (ofEndpoint endpoint).isPresent = true := rfl

theorem isObject_ofMembers (members : List (String × Json)) :
    isObject (ofMembers members) = true := rfl

theorem isArray_ofStrings (texts : List String) : isArray (ofStrings texts) = true := rfl

theorem text_ne_empty (type : RelationType) : type.text ≠ "" := by
  cases type <;> decide

theorem isEntity_ofEntity (entity : Entity) :
    isEntity (ofEntity entity) = true ↔ entity.id ≠ "" ∧ entity.name ≠ "" := by
  simp [isEntity, ofEntity, has, hasNumber, get?_ofMembers, Keyed.get?, isPresent_ofString,
    isObject_ofMembers, isArray_ofStrings, isNumber]

theorem isRelationship_ofRelationship (relationship : Relationship) :
    isRelationship (ofRelationship relationship) = true ↔ relationship.id ≠ "" := by
  have hasType := text_ne_empty relationship.type
  simp [isRelationship, ofRelationship, has, get?_ofMembers, Keyed.get?, isPresent_ofString,
    isPresent_ofEndpoint, isObject_ofMembers, hasType]

/-! ### Loading -/

/-- Loading the text of a document checks its values and changes none of them. -/
theorem result_load_dump {limit? : Option Nat} {document : Document}
    (lasting : Lasting limit? document.toJson) :
    (load limit? document.dump.toList).result = (ofJson document.toJson).result.mapError
      .format := by
  rw [load, dump, String.toList_ofList, parse_printLines lasting]
  rfl

end Document

namespace Diagram

open Document

/-- Whether the document of a diagram is loaded depends on the ids and names of its parts only. -/
theorem result_load_dump {diagram : Diagram} (distinct : (Keyed.keys diagram.enumData).Nodup)
    (ids : ∀ entity ∈ diagram.entities, entity.id ≠ "")
    (relationshipIds : ∀ relationship ∈ diagram.relationships, relationship.id ≠ "") :
    (load none diagram.dump.toList).result =
      if ∀ entity ∈ diagram.entities, entity.name ≠ "" then .ok (ofDiagram diagram)
      else .error (.format .invalidEntity) := by
  have entities : (ofDiagram diagram).entities.all isEntity = true ↔
      ∀ entity ∈ diagram.entities, entity.name ≠ "" := by
    simp only [ofDiagram, List.all_map, List.all_eq_true, Function.comp_apply, isEntity_ofEntity]
    exact forall₂_congr fun entity mem => and_iff_right (ids entity mem)
  have relationships : (ofDiagram diagram).relationships.all isRelationship = true := by
    simp only [ofDiagram, List.all_map, List.all_eq_true, Function.comp_apply,
      isRelationship_ofRelationship]
    exact relationshipIds
  rw [dump, Document.result_load_dump (lasting_toJson distinct), result_ofJson_toJson,
    relationships]
  by_cases named : ∀ entity ∈ diagram.entities, entity.name ≠ ""
  · rw [if_pos named, entities.2 named]
    rfl
  · have invalid : (ofDiagram diagram).entities.all isEntity = false := by
      rw [← Bool.not_eq_true, entities]
      exact named
    rw [if_neg named, invalid]
    rfl

theorem append_ne_empty {first : String} (nonempty : first ≠ "") (second : String) :
    first ++ second ≠ "" := by
  simp [nonempty]

/-- The document of placed tables is loaded exactly if every table has a name. -/
theorem result_load_dump_placed (tables : List Table) (source : String) (layout : Layout) :
    (load none (placed tables source layout).dump.toList).result =
      if ∀ table ∈ tables, table.name ≠ "" then .ok (ofDiagram (placed tables source layout))
      else .error (.format .invalidEntity) := by
  have named : (∀ entity ∈ (placed tables source layout).entities, entity.name ≠ "") ↔
      ∀ table ∈ tables, table.name ≠ "" := by
    have sameNames := congrArg (fun names => ∀ name ∈ names, name ≠ "")
      (names_placed tables source layout)
    simpa only [List.forall_mem_map, eq_iff_iff] using sameNames
  rw [result_load_dump (Keyed.nodup_keys_ofPairs _) ?_ ?_]
  · simp only [named]
  · intro entity mem
    rcases List.mem_map.1 mem with ⟨⟨table, index⟩, _, rfl⟩
    exact append_ne_empty (by decide) _
  · intro relationship mem
    rcases List.mem_flatMap.1 mem with ⟨table, _, memLinks⟩
    rcases List.mem_map.1 memLinks with ⟨link, _, rfl⟩
    exact append_ne_empty (append_ne_empty (append_ne_empty (by decide) _) _) _

end Diagram

/-- A diagram whose tables all have a name is loaded as it was dumped, and one with a nameless table
is refused; what any text is read as has only tables with a name.  Integers are exact, without a
limit on digits. -/
theorem Diagram.load_dump {layout : Layout} (hasRows : layout.maxPerRow ≠ 0) (source : String) :
    (∀ tables, ∃ diagram, ofTables tables source layout = .ok diagram ∧
      ((∀ table ∈ tables, table.name ≠ "") →
        (Document.load none diagram.dump.toList).result = .ok (Document.ofDiagram diagram)) ∧
      ((∃ table ∈ tables, table.name = "") →
        (Document.load none diagram.dump.toList).result = .error (.format .invalidEntity))) ∧
    ∀ text dialect?, ∃ diagram,
      ofTables (Schema.parse text dialect?).result source layout = .ok diagram ∧
      (Document.load none diagram.dump.toList).result = .ok (Document.ofDiagram diagram) := by
  constructor
  · intro tables
    refine ⟨placed tables source layout, ofTables_eq_ok hasRows tables source, ?_, ?_⟩
    · intro named
      rw [result_load_dump_placed, if_pos named]
    · rintro ⟨table, mem, nameless⟩
      rw [result_load_dump_placed, if_neg]
      intro named
      exact named table mem nameless
  · intro text dialect?
    refine ⟨placed _ source layout, ofTables_eq_ok hasRows _ source, ?_⟩
    rw [result_load_dump_placed, if_pos]
    rw [Schema.result_parse]
    intro table mem nameless
    have isWord := (Dialect.sound_parse _ text.toList).names table mem
    rw [nameless] at isWord
    exact isWord.1 rfl

theorem Diagram.load_dump_escaped : Layout.standard.maxPerRow ≠ 0 ∧
    ∃ diagram, ofTables [⟨"\"\n😀", [], []⟩] "é\x7f" Layout.standard = .ok diagram ∧
      (Document.load none diagram.dump.toList).result = .ok (Document.ofDiagram diagram) := by
  have hasRows : Layout.standard.maxPerRow ≠ 0 := by decide
  rcases (load_dump hasRows "é\x7f").1 [⟨"\"\n😀", [], []⟩] with ⟨diagram, built, loaded, _⟩
  exact ⟨hasRows, diagram, built, loaded (by simp)⟩

end Schemagram
