import Schemagram.Proofs.Diagram.Loading
import Schemagram.Proofs.Json.Limit

/-!
# Which texts are documents

Whether a text is a document is a matter of the value that it denotes, and of that only: an object
with two lists, of entities that have all that an entity needs and of relationships that have all
that a relationship needs.  Each fault is reported exactly if the value has it and none of those
that come before it.

A value under a key counts if it is no null, false, zero of either sign, or empty string, array or
object.  A double that is no number counts.
-/

namespace Schemagram

namespace Json

/-- The values that do not count as present. -/
inductive Falsy : Json → Prop where
  | null : Falsy .null
  | no : Falsy (.bool false)
  | zero : Falsy (.integer 0)
  | zeroDouble (isNegative : Bool) (exponent : Int) :
    Falsy (.double (.finite isNegative 0 exponent))
  | emptyString : Falsy (.string [])
  | emptyArray : Falsy (.array [])
  | emptyObject : Falsy (.object [])

def Truthy (value : Json) : Prop := ¬value.Falsy

/-- Truth values are no numbers. -/
inductive Number : Json → Prop where
  | integer (value : Int) : Number (.integer value)
  | double (value : Double) : Number (.double value)

def IsObject (value : Json) : Prop := ∃ members, value = .object members

/-- What stands under a key is of a kind. -/
def Has (value : Json) (key : String) (kind : Json → Prop) :
    Prop := ∃ found, value.get? key = some found ∧ kind found

theorem isPresent_iff {value : Json} : value.isPresent = true ↔ value.Truthy := by
  have falsy : value.isPresent = false ↔ value.Falsy := by
    constructor
    · intro absent
      cases value with
      | null => exact .null
      | bool value =>
        cases absent
        exact .no
      | integer value =>
        have isZero : value = 0 := by simpa [isPresent] using absent
        rw [isZero]
        exact .zero
      | double value =>
        cases value with
        | finite isNegative significand exponent =>
          have isZero : significand = 0 := by simpa [isPresent, Double.isZero] using absent
          rw [isZero]
          exact .zeroDouble isNegative exponent
        | _ => cases absent
      | string text =>
        cases text with
        | nil => exact .emptyString
        | cons => cases absent
      | array items =>
        cases items with
        | nil => exact .emptyArray
        | cons => cases absent
      | object members =>
        cases members with
        | nil => exact .emptyObject
        | cons => cases absent
    · intro isFalsy
      cases isFalsy <;> rfl
  rw [Truthy, ← falsy, Bool.not_eq_false]

theorem isNumber_iff {value : Json} : value.isNumber = true ↔ value.Number := by
  constructor
  · intro isNumber
    cases value with
    | integer value => exact .integer value
    | double value => exact .double value
    | _ => cases isNumber
  · intro number
    cases number <;> rfl

/-- A check of what stands under a key. -/
theorem getD_map_get?_iff {value : Json} {key : String} {check : Json → Bool} {kind : Json → Prop}
    (checks : ∀ {found}, check found = true ↔ kind found) :
    ((value.get? key).map check).getD false = true ↔ value.Has key kind := by
  unfold Has
  cases value.get? key with
  | none => simp
  | some found => simp [checks]

theorem isObject_of_get? {value found : Json} {key : String}
    (isFound : value.get? key = some found) :
    value.IsObject := by
  cases value with
  | object members => exact ⟨members, rfl⟩
  | _ => cases isFound

end Json

namespace Document

open Decimal (usualLimit)
open Json
open Text (join)

structure IsEntity (value : Json) : Prop where
  object : value.IsObject
  id : value.Has "id" Truthy
  name : value.Has "name" Truthy
  attributes : value.Has "attributes" fun found => ∃ items, found = .array items
  position : value.Has "position" fun found => found.IsObject ∧ found.Has "x" Number ∧
    found.Has "y" Number

structure IsRelationship (value : Json) : Prop where
  object : value.IsObject
  parts : ∀ key ∈ ["id", "from", "to", "type"], value.Has key Truthy

def AreEntities (values : List Json) : Prop := ∀ value ∈ values, IsEntity value

def AreRelationships (values : List Json) : Prop := ∀ value ∈ values, IsRelationship value

/-- The two lists of a value. -/
structure HasLists (value : Json) (entities relationships : List Json) : Prop where
  object : value.IsObject
  entities : value.get? "entities" = some (.array entities)
  relationships : value.get? "relationships" = some (.array relationships)

variable {value : Json} {entities relationships : List Json}

theorem isObject_iff : isObject value = true ↔ value.IsObject := by
  constructor
  · intro object
    cases value with
    | object members => exact ⟨members, rfl⟩
    | _ => cases object
  · rintro ⟨members, rfl⟩
    rfl

theorem isArray_iff : isArray value = true ↔ ∃ items, value = .array items := by
  constructor
  · intro array
    cases value with
    | array items => exact ⟨items, rfl⟩
    | _ => cases array
  · rintro ⟨items, rfl⟩
    rfl

theorem has_iff {key : String} : has value key = true ↔ value.Has key Truthy :=
  getD_map_get?_iff isPresent_iff

theorem hasNumber_iff {key : String} : hasNumber value key = true ↔ value.Has key Number :=
  getD_map_get?_iff isNumber_iff

theorem isEntity_iff : isEntity value = true ↔ IsEntity value := by
  unfold isEntity
  cases found : value.get? "position" with
  | none =>
    apply iff_of_false
    · simp
    · intro entity
      rcases entity.position with ⟨position, isPosition, _⟩
      rw [found] at isPosition
      cases isPosition
  | some position =>
    simp only [Bool.and_eq_true, isObject_iff, has_iff, hasNumber_iff,
      getD_map_get?_iff isArray_iff]
    constructor
    · rintro ⟨⟨⟨⟨object, id⟩, name⟩, attributes⟩, ⟨isPosition, x⟩, y⟩
      exact ⟨object, id, name, attributes, position, found, isPosition, x, y⟩
    · rintro ⟨object, id, name, attributes, other, isOther, isPosition, x, y⟩
      rw [found] at isOther
      cases isOther
      exact ⟨⟨⟨⟨object, id⟩, name⟩, attributes⟩, ⟨isPosition, x⟩, y⟩

theorem isRelationship_iff : isRelationship value = true ↔ IsRelationship value := by
  simp only [isRelationship, Bool.and_eq_true, isObject_iff, List.all_eq_true, has_iff]
  constructor
  · rintro ⟨object, parts⟩
    exact ⟨object, parts⟩
  · rintro ⟨object, parts⟩
    exact ⟨object, parts⟩

theorem lists?_eq_some_iff : lists? value = some (entities, relationships) ↔
    HasLists value entities relationships := by
  constructor
  · intro found
    unfold lists? at found
    split at found
    · rename_i foundEntities foundRelationships
      cases found
      exact ⟨isObject_of_get? foundEntities, foundEntities, foundRelationships⟩
    · cases found
  · rintro ⟨_, foundEntities, foundRelationships⟩
    rw [lists?, foundEntities, foundRelationships]

theorem HasLists.unique {otherEntities otherRelationships : List Json}
    (lists : HasLists value entities relationships)
    (others : HasLists value otherEntities otherRelationships) :
    otherEntities = entities ∧ otherRelationships = relationships := by
  have sameEntities := others.entities.symm.trans lists.entities
  have sameRelationships := others.relationships.symm.trans lists.relationships
  cases sameEntities
  cases sameRelationships
  exact ⟨rfl, rfl⟩

theorem HasLists.exists_iff {holds : List Json → List Json → Prop}
    (lists : HasLists value entities relationships) :
    (∃ entities relationships, HasLists value entities relationships ∧
      holds entities relationships) ↔
      holds entities relationships := by
  constructor
  · rintro ⟨others, otherRelationships, otherLists, itHolds⟩
    rcases lists.unique otherLists with ⟨rfl, rfl⟩
    exact itHolds
  · intro itHolds
    exact ⟨entities, relationships, lists, itHolds⟩

/-! ### Outcomes -/

theorem result_ofJson_of_not_isObject (other : ¬value.IsObject) :
    (ofJson value).result = .error .notAnObject := by
  rw [ofJson, if_neg (mt isObject_iff.1 other)]

theorem result_ofJson_of_not_hasLists (object : value.IsObject)
    (noLists : ∀ entities relationships, ¬HasLists value entities relationships) :
    (ofJson value).result = .error .notLists := by
  rw [ofJson, if_pos (isObject_iff.2 object)]
  split
  · rfl
  · rename_i entities relationships found
    exact absurd (lists?_eq_some_iff.1 found) (noLists entities relationships)

theorem result_ofJson_of_hasLists (lists : HasLists value entities relationships) :
    (ofJson value).result =
      if !entities.all isEntity then .error .invalidEntity
      else if !relationships.all isRelationship then .error .invalidRelationship
      else .ok ⟨entities, relationships, enumDataOf value, sourceOf value⟩ := by
  rw [ofJson, if_pos (isObject_iff.2 lists.object), lists?_eq_some_iff.2 lists]

theorem all_isEntity_iff : entities.all isEntity = true ↔ AreEntities entities := by
  simp only [List.all_eq_true, isEntity_iff, AreEntities]

theorem all_isRelationship_iff : relationships.all isRelationship = true ↔
    AreRelationships relationships := by
  simp only [List.all_eq_true, isRelationship_iff, AreRelationships]

/-- The enums of a value: what stands under their key if it is an object, and else none. -/
def IsEnumData (value : Json) (enumData : List (List Text.CodePoint × Json)) : Prop :=
  value.get? "enum_data" = some (.object enumData) ∨
    (¬value.Has "enum_data" IsObject ∧ enumData = [])

/-- The source of a value: what stands under its key if it is a string, and else the empty one. -/
def IsSource (value : Json) (source : List Text.CodePoint) : Prop :=
  value.get? "source" = some (.string source) ∨
    ((∀ text, value.get? "source" ≠ some (.string text)) ∧ source = [])

theorem isEnumData_enumDataOf (value : Json) : IsEnumData value (enumDataOf value) := by
  unfold enumDataOf
  split
  · rename_i found
    exact .inl found
  · rename_i other
    refine .inr ⟨?_, rfl⟩
    rintro ⟨_, found, members, rfl⟩
    exact other members found

theorem isSource_sourceOf (value : Json) : IsSource value (sourceOf value) := by
  unfold sourceOf
  split
  · rename_i found
    exact .inl found
  · rename_i other
    exact .inr ⟨other, rfl⟩

/-- The outcome of the checks, for every value: the first fault in the order in which they stand
here, or the document of the four parts. -/
theorem ofJson_outcome (value : Json) :
    ((ofJson value).result = .error .notAnObject ↔ ¬value.IsObject) ∧
      ((ofJson value).result = .error .notLists ↔
        value.IsObject ∧ ∀ entities relationships, ¬HasLists value entities relationships) ∧
      ((ofJson value).result = .error .invalidEntity ↔
        ∃ entities relationships, HasLists value entities relationships ∧ ¬AreEntities entities) ∧
      ((ofJson value).result = .error .invalidRelationship ↔
        ∃ entities relationships, HasLists value entities relationships ∧ AreEntities entities ∧
          ¬AreRelationships relationships) ∧
      ((∃ document, (ofJson value).result = .ok document) ↔
        ∃ entities relationships, HasLists value entities relationships ∧ AreEntities entities ∧
          AreRelationships relationships) ∧
      ∀ document, (ofJson value).result = .ok document →
        ∃ entities relationships enumData source, HasLists value entities relationships ∧
          IsEnumData value enumData ∧ IsSource value source ∧
          document.toJson = .ofMembers
          [("entities", .array entities), ("relationships", .array relationships),
            ("enum_data", .object enumData), ("source", .string source)] := by
  by_cases object : value.IsObject
  · by_cases hasLists : ∃ entities relationships, HasLists value entities relationships
    · rcases hasLists with ⟨entities, relationships, lists⟩
      rw [result_ofJson_of_hasLists lists, lists.exists_iff, lists.exists_iff, lists.exists_iff]
      have hasSome : ¬∀ entities relationships, ¬HasLists value entities relationships :=
        fun noLists => noLists entities relationships lists
      by_cases areEntities : AreEntities entities
      · by_cases areRelationships : AreRelationships relationships
        · rw [all_isEntity_iff.2 areEntities, all_isRelationship_iff.2 areRelationships]
          refine ⟨by simp [object], by simp [hasSome], by simp [areEntities],
            by simp [areRelationships], iff_of_true ⟨_, rfl⟩ ⟨areEntities, areRelationships⟩, ?_⟩
          rintro document ⟨⟩
          exact ⟨entities, relationships, _, _, lists, isEnumData_enumDataOf value,
            isSource_sourceOf value, rfl⟩
        · rw [all_isEntity_iff.2 areEntities,
            Bool.eq_false_iff.2 (mt all_isRelationship_iff.1 areRelationships)]
          simp [object, hasSome, areEntities, areRelationships]
      · rw [Bool.eq_false_iff.2 (mt all_isEntity_iff.1 areEntities)]
        simp [object, hasSome, areEntities]
    · have noLists : ∀ entities relationships, ¬HasLists value entities relationships :=
        fun entities relationships lists => hasLists ⟨entities, relationships, lists⟩
      rw [result_ofJson_of_not_hasLists object noLists]
      simp [object, noLists]
  · have noLists : ∀ entities relationships, ¬HasLists value entities relationships :=
      fun _ _ lists => object lists.object
    rw [result_ofJson_of_not_isObject object]
    simp [object, noLists]

section

variable {limit? : Option Nat} {text : List Char}

theorem load_of_isTextOf (isText : IsTextOf limit? text value) :
    (load limit? text).result = (ofJson value).result.mapError .format := by
  rw [load, parse_of_isTextOf isText]
  rfl

theorem load_of_stops (stops : Stops (parse limit? text)) :
    ∃ excess, (load limit? text).result = .error (.digits excess) := by
  rcases stops with ⟨excess, rest, stops⟩
  exact ⟨excess, by rw [load, stops]; rfl⟩

theorem mapError_format_eq_error_iff {read : Except Fault Document} {fault : Fault} :
    read.mapError LoadFault.format = .error (.format fault) ↔ read = .error fault := by
  cases read with
  | error other => simp [Except.mapError]
  | ok document => simp [Except.mapError]

theorem ofJson_ne_invalidJson (fault : Json.Fault) (text : List Char) :
    (ofJson value).result ≠ .error (.invalidJson fault text) := by
  unfold ofJson
  split
  · split
    · rintro ⟨⟩
    · dsimp only
      split
      · rintro ⟨⟩
      · split <;> rintro ⟨⟩
  · rintro ⟨⟩

/-- A text that is reported as no JSON denotes no value. -/
theorem not_isTextOf_of_invalidJson {fault : Json.Fault}
    (loaded : (load limit? text).result = .error (.format (.invalidJson fault text)))
    (value : Json) :
    ¬IsTextOf none text value := by
  intro isText
  by_cases within : IsTextOf limit? text value
  · rw [load_of_isTextOf within, mapError_format_eq_error_iff] at loaded
    exact ofJson_ne_invalidJson fault text loaded
  · rcases load_of_stops (stops_of_not_isTextOf isText within) with ⟨excess, stops⟩
    rw [stops] at loaded
    cases loaded

theorem load_of_no_value (noText : ∀ value, ¬IsTextOf none text value) :
    (∃ fault, (load limit? text).result = .error (.format (.invalidJson fault text))) ∨
      limit? ≠ none ∧ ∃ excess, (load limit? text).result = .error (.digits excess) := by
  cases read : Json.parse limit? text with
  | ok value => exact absurd (isTextOf_of_parse read).unlimited (noText value)
  | error fault =>
    unfold load
    rw [read]
    dsimp only
    cases excess : fault.reason.excess? with
    | none => exact .inl ⟨fault, rfl⟩
    | some found =>
      refine .inr ⟨?_, found, rfl⟩
      rintro rfl
      rw [neverStops_parse text fault read] at excess
      cases excess

end

/-- The outcome of loading, for every text and whatever limit there is on digits.  A text that
denotes no value is reported as such, unless it is an integer beyond the limit that stops the
reading.  A text that denotes a value in which all integers are within the limit has the outcome
that the value tells: the first fault in the order in which they stand here, or the document of its
four parts.  An integer beyond the limit stops the loading of any other text. -/
theorem load_outcome (limit? : Option Nat) (text : List Char) :
    (∀ fault, (load limit? text).result = .error (.format (.invalidJson fault text)) →
      ∀ value, ¬IsTextOf none text value) ∧
    ((∀ value, ¬IsTextOf none text value) →
      (∃ fault, (load limit? text).result = .error (.format (.invalidJson fault text))) ∨
        limit? ≠ none ∧ ∃ excess, (load limit? text).result = .error (.digits excess)) ∧
    ∀ value, IsTextOf none text value →
      (¬IsTextOf limit? text value → ∃ excess,
        (load limit? text).result = .error (.digits excess)) ∧
      (IsTextOf limit? text value →
        ((load limit? text).result = .error (.format .notAnObject) ↔ ¬value.IsObject) ∧
        ((load limit? text).result = .error (.format .notLists) ↔
          value.IsObject ∧ ∀ entities relationships, ¬HasLists value entities relationships) ∧
        ((load limit? text).result = .error (.format .invalidEntity) ↔
          ∃ entities relationships, HasLists value entities relationships ∧ ¬AreEntities entities) ∧
        ((load limit? text).result = .error (.format .invalidRelationship) ↔
          ∃ entities relationships, HasLists value entities relationships ∧ AreEntities entities ∧
            ¬AreRelationships relationships) ∧
        ((∃ document, (load limit? text).result = .ok document) ↔
          ∃ entities relationships, HasLists value entities relationships ∧ AreEntities entities ∧
            AreRelationships relationships) ∧
        ∀ document, (load limit? text).result = .ok document →
          ∃ entities relationships enumData source, HasLists value entities relationships ∧
            IsEnumData value enumData ∧ IsSource value source ∧
            document.toJson = .ofMembers
            [("entities", .array entities), ("relationships", .array relationships),
              ("enum_data", .object enumData), ("source", .string source)]) := by
  refine ⟨fun _ => not_isTextOf_of_invalidJson, load_of_no_value, fun value isText =>
    ⟨?_, fun within => ?_⟩⟩
  · exact fun beyond => load_of_stops (stops_of_not_isTextOf isText beyond)
  · rw [load_of_isTextOf within]
    simp only [mapError_format_eq_error_iff, Except.mapError_eq_ok_iff]
    exact ofJson_outcome value

/-- An entity whose id is no number, and whose name is no string. -/
def oddEntity : Json :=
  .ofMembers [("id", .double .nan), ("name", .bool true), ("attributes", .array []),
  ("position", .ofMembers [("x", .integer 0), ("y", .integer (-3))])]

/-- The relationships are a number at first, and a list in the end. -/
def repeatedText : List Char := "\x7b\"relationships\":0,\"entities\":[\x7b
  \"id\": NaN,
  \"name\": true,
  \"attributes\": [],
  \"position\": \x7b
    \"x\": 0,
    \"y\": -3
  \x7d
\x7d],\"relationships\":[]\x7d".toList

def repeatedValue :
    Json := .ofMembers [("relationships", .array []), ("entities", .array [oddEntity])]

theorem lasting_oddEntity : Lasting usualLimit oddEntity := by
  refine lasting_ofMembers (by decide) ?_
  simp only [List.forall_mem_cons, List.not_mem_nil, false_implies, implies_true, and_true]
  refine ⟨.double readsBack_nan, .bool true, .array (List.forall_mem_nil _),
    lasting_ofMembers (by decide) ?_⟩
  simp only [List.forall_mem_cons, List.not_mem_nil, false_implies, implies_true, and_true]
  exact ⟨.integer (by decide +kernel), .integer (by decide +kernel)⟩

theorem isTextOf_repeatedText : IsTextOf usualLimit repeatedText repeatedValue := by
  rcases isTextOf_of_parse (parse_printLines lasting_oddEntity) with
    ⟨entity, denotes, written, same⟩
  have zero : Denotes usualLimit ['0'] (.integer 0) := by
    have isZero : IsWhole ['0'] := by
      unfold IsWhole AreDigits
      decide
    exact .number (.parts .none isZero .none .none) (by decide +kernel)
  have noEntities : Denotes usualLimit ['[', ']'] (.array []) := .emptyArray isBlank_nil
  have someEntities :
      Denotes usualLimit ('[' :: (entity.written ++ [']'])) (.array [entity.value]) :=
    .array (List.cons_ne_nil entity []) (List.forall_mem_singleton.2 denotes)
  let member (key : String) (text : List Char) (value : Json) : Member :=
    { before := [], keyText := printString (points key), between := [], key := points key
      item := ⟨[], text, [], value, isBlank_nil, isBlank_nil⟩
      blankBefore := isBlank_nil, blankBetween := isBlank_nil }
  let members : List Member := [member "relationships" ['0'] (.integer 0),
    member "entities" ('[' :: (entity.written ++ [']'])) (.array [entity.value]),
    member "relationships" ['[', ']'] (.array [])]
  have named : ∀ member ∈ members, WritesString member.keyText member.key := by
    simp [members, member, writesString_printString, joined_points]
  have denote : ∀ member ∈ members, Denotes usualLimit member.item.text member.item.value := by
    simp [members, member, zero, noEntities, someEntities]
  refine ⟨⟨[], _, [], _, isBlank_nil, isBlank_nil⟩,
    .object (List.cons_ne_nil _ _) named denote, ?_, ?_⟩
  · have split : repeatedText =
        '\x7b' :: (join [','] [printString (points "relationships") ++ [':', '0'],
        printString (points "entities") ++ (':' :: '[' :: (printLines 0 oddEntity ++ [']'])),
        printString (points "relationships") ++ [':', '[', ']']] ++ ['\x7d']) := by
      decide +kernel
    rw [split, ← written]
    simp [Spaced.written, Member.written, join, member]
  · simp only [member, List.map_cons, List.map_nil, same, ← Keyed.ofPairs_eq_latest]
    simp [Keyed.ofPairs, Keyed.put, repeatedValue, ofMembers, points_injective.eq_iff]

theorem isEntity_oddEntity : IsEntity oddEntity := by
  have position : (ofMembers [("x", .integer 0), ("y", .integer (-3))]).IsObject := ⟨_, rfl⟩
  refine ⟨⟨_, rfl⟩, ⟨.double .nan, get?_ofMembers _ _, ?_⟩, ⟨.bool true, get?_ofMembers _ _, ?_⟩,
    ⟨.array [], get?_ofMembers _ _, [], rfl⟩,
    ⟨_, get?_ofMembers _ _, position, ⟨.integer 0, get?_ofMembers _ _, ?_⟩,
      .integer (-3), get?_ofMembers _ _, ?_⟩⟩
  · rintro ⟨⟩
  · rintro ⟨⟩
  · exact .integer 0
  · exact .integer (-3)

theorem load_outcome_repeatedText : IsTextOf none repeatedText repeatedValue ∧
    IsTextOf usualLimit repeatedText repeatedValue ∧
    ∃ document, (load usualLimit repeatedText).result = .ok document ∧
      document.toJson = .ofMembers [("entities", .array [oddEntity]), ("relationships", .array []),
        ("enum_data", .object []), ("source", .string [])] := by
  have lists : HasLists repeatedValue [oddEntity] [] :=
    ⟨⟨_, rfl⟩, get?_ofMembers _ _, get?_ofMembers _ _⟩
  have areEntities : AreEntities [oddEntity] := List.forall_mem_singleton.2 isEntity_oddEntity
  have isText := isTextOf_repeatedText.unlimited
  rcases ((load_outcome usualLimit repeatedText).2.2 repeatedValue isText).2
    isTextOf_repeatedText with
    ⟨_, _, _, _, succeeds, holds⟩
  rcases succeeds.2 ⟨[oddEntity], [], lists, areEntities, List.forall_mem_nil _⟩ with
    ⟨document, loaded⟩
  rcases holds document loaded with
    ⟨entities, relationships, enumData, source, others, isEnumData, isSource, same⟩
  rcases lists.unique others with ⟨rfl, rfl⟩
  have noEnumData : repeatedValue.get? "enum_data" = none := get?_ofMembers _ _
  have noSource : repeatedValue.get? "source" = none := get?_ofMembers _ _
  have isEmpty : enumData = [] := by simpa [IsEnumData, noEnumData, Has] using isEnumData
  have isNothing : source = [] := by simpa [IsSource, noSource] using isSource
  rw [isEmpty, isNothing] at same
  exact ⟨isText, isTextOf_repeatedText, document, loaded, same⟩

/-- The beginning of a document without entities and relationships, up to the value of a further
member. -/
def headText : List Char := "\x7b\"entities\": [], \"relationships\": [], \"n\": ".toList

theorem headText_eq :
    headText = '\x7b' :: (printString (points "entities") ++ ([':', ' ', '[', ']', ',', ' '] ++
    (printString (points "relationships") ++ ([':', ' ', '[', ']', ',', ' '] ++
      (printString (points "n") ++ [':', ' ']))))) := by
  decide +kernel

/-- A document that holds nothing but a number. -/
def textWithNumber (whole : List Char) : List Char := headText ++ (whole ++ ['\x7d'])

def valueWithNumber (whole : List Char) :
  Json := .ofMembers [("entities", .array []), ("relationships", .array []),
  ("n", .integer (Decimal.ofDigits whole))]

theorem isTextOf_textWithNumber {whole : List Char} (isWhole : IsWhole whole) :
    IsTextOf none (textWithNumber whole) (valueWithNumber whole) := by
  have number : Denotes none whole (.integer (Decimal.ofDigits whole)) := by
    have isNumber := WritesNumber.parts .none isWhole .none .none
    rw [List.nil_append, List.append_nil, List.append_nil] at isNumber
    exact .number isNumber rfl
  have empty : Denotes none ['[', ']'] (.array []) := .emptyArray isBlank_nil
  have space : IsBlank [' '] := List.forall_mem_singleton.2 rfl
  let member (before : List Char) (blank : IsBlank before) (key : String) (text : List Char)
      (value : Json) : Member :=
    { before, keyText := printString (points key), between := [], key := points key
      item := ⟨[' '], text, [], value, space, isBlank_nil⟩
      blankBefore := blank, blankBetween := isBlank_nil }
  let members : List Member := [member [] isBlank_nil "entities" ['[', ']'] (.array []),
    member [' '] space "relationships" ['[', ']'] (.array []),
    member [' '] space "n" whole (.integer (Decimal.ofDigits whole))]
  have named : ∀ member ∈ members, WritesString member.keyText member.key := by
    simp [members, member, writesString_printString, joined_points]
  have denote : ∀ member ∈ members, Denotes none member.item.text member.item.value := by
    simp [members, member, empty, number]
  refine ⟨⟨[], _, [], _, isBlank_nil, isBlank_nil⟩,
    .object (List.cons_ne_nil _ _) named denote, ?_, ?_⟩
  · rw [textWithNumber, headText_eq]
    simp [Spaced.written, Member.written, join, member]
  · simp only [member, List.map_cons, List.map_nil, ← Keyed.ofPairs_eq_latest]
    simp [Keyed.ofPairs, Keyed.put, valueWithNumber, ofMembers, points_injective.eq_iff]

/-- A number with more digits than the limit stops the loading. -/
theorem load_textWithNumber {whole : List Char} (isWhole : IsWhole whole) {limit : Nat}
    (beyond : limit < whole.length) :
    ∃ excess, (load (some limit) (textWithNumber whole)).result = .error (.digits excess) := by
  refine load_of_stops (stops_of_not_isTextOf (isTextOf_textWithNumber isWhole) fun isText => ?_)
  have fits := fits_of_isTextOf isText
  rw [valueWithNumber, ofMembers, fits_object] at fits
  have within : Decimal.isWithin (some limit) (Decimal.ofDigits whole) = true :=
    fits (points "n", .integer (Decimal.ofDigits whole)) (by simp)
  rw [Decimal.isWithin, Option.all_some, digitCount_ofDigits isWhole, decide_eq_true_eq] at within
  omega

theorem isWhole_replicate (count : Nat) : IsWhole (List.replicate (count + 1) '1') := by
  refine ⟨⟨List.cons_ne_nil _ _, fun char mem => ?_⟩, fun zero => ?_⟩
  · rw [List.eq_of_mem_replicate mem]
    rfl
  · exact absurd (Option.some.inj zero) (by decide)

/-- A text may denote a value that meets all conditions and still be neither loaded nor refused as a
matter of its format: a number of five thousand digits stops the loading. -/
theorem load_stops_at_number :
    ∃ value, IsTextOf none (textWithNumber (List.replicate 5000 '1')) value ∧
    HasLists value [] [] ∧ AreEntities [] ∧ AreRelationships [] ∧
    (∀ document, (load usualLimit (textWithNumber (List.replicate 5000 '1'))).result ≠
      .ok document) ∧
    ∀ fault, (load usualLimit (textWithNumber (List.replicate 5000 '1'))).result ≠
      .error (.format fault) := by
  have isWhole := isWhole_replicate 4999
  have lists : HasLists (valueWithNumber (List.replicate 5000 '1')) [] [] :=
    ⟨⟨_, rfl⟩, get?_ofMembers _ _, get?_ofMembers _ _⟩
  have beyond : 4300 < (List.replicate 5000 '1').length := by
    rw [List.length_replicate]
    decide
  rcases load_textWithNumber isWhole beyond with ⟨excess, stops⟩
  refine ⟨_, isTextOf_textWithNumber isWhole, lists, List.forall_mem_nil _, List.forall_mem_nil _,
    fun document loaded => ?_,
    fun fault loaded => ?_⟩
  · rw [usualLimit, stops] at loaded
    cases loaded
  · rw [usualLimit, stops] at loaded
    cases loaded

end Document

end Schemagram
