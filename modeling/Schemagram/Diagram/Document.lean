import Schemagram.Event
import Schemagram.Diagram.Basic
import Schemagram.Json.Limit
import Schemagram.Json.Parser
import Schemagram.Json.Printer

/-!
# Diagram documents

A diagram document is the JSON form of a diagram.  Entities and relationships of a document that has
been read are JSON values: they keep whatever else they hold, once the parts that a diagram needs
are known to be there.

Entities are checked before relationships, so that of several faults the first in that order is
reported.
-/

namespace Schemagram

open Text (CodePoint)

structure Document where
  entities : List Json
  relationships : List Json
  enumData : List (List CodePoint × Json)
  source : List CodePoint

namespace Document

/-! ### From diagrams -/

def ofEntity (entity : Entity) : Json := .ofMembers [
  ("id", .ofString entity.id), ("name", .ofString entity.name),
  ("attributes", .ofStrings entity.attributes),
  ("position", .ofMembers [("x", .integer entity.position.x), ("y", .integer entity.position.y)])]

/-- An end of a relationship as JSON. -/
def ofEndpoint (endpoint : Endpoint) : Json := .ofMembers [
  ("entity_id", .ofString endpoint.entityId), ("attribute_index", .ofNat endpoint.attributeIndex)]

def ofRelationship (relationship : Relationship) : Json := .ofMembers [
  ("id", .ofString relationship.id), ("from", ofEndpoint relationship.source),
  ("to", ofEndpoint relationship.target), ("type", .ofString relationship.type.text)]

def ofDiagram (diagram : Diagram) : Document where
  entities := diagram.entities.map ofEntity
  relationships := diagram.relationships.map ofRelationship
  enumData := diagram.enumData.map fun (name, members) => (Json.points name, .ofStrings members)
  source := Json.points diagram.source

/-! ### Writing -/

/-- A document as one JSON object. -/
def toJson (document : Document) : Json := .ofMembers [
  ("entities", .array document.entities), ("relationships", .array document.relationships),
  ("enum_data", .object document.enumData), ("source", .string document.source)]

def dump (document : Document) : String := String.ofList (Json.printLines 0 document.toJson)

/-- The text of a document under a limit on digits, which its integers may exceed. -/
def dumpWithin (limit? : Option Nat) (document : Document) : Except Decimal.Excess String :=
  match Decimal.shownExcess? limit? (document.toJson.fits limit?) with
  | some excess => .error excess
  | none => .ok document.dump

/-! ### Reading -/

/-- Why a text is no diagram document. -/
inductive Fault where
  | invalidJson (fault : Json.Fault) (text : List Char)
  | notAnObject
  | notLists
  | invalidEntity
  | invalidRelationship
  deriving DecidableEq, Repr

def Fault.message : Fault → String
  | .invalidJson fault text => "Invalid JSON: " ++ fault.message text
  | .notAnObject => "Invalid diagram format: expected a JSON object"
  | .notLists => "Invalid diagram format: entities and relationships must be lists"
  | .invalidEntity => "Invalid entity format in imported data"
  | .invalidRelationship => "Invalid relationship format in imported data"

/-- Whether an object has a value that counts as present under a key. -/
def has (value : Json) (key : String) : Bool := ((value.get? key).map Json.isPresent).getD false

/-- Whether an object has a number under a key. -/
def hasNumber (value : Json) (key : String) :
    Bool := ((value.get? key).map Json.isNumber).getD false

def isArray : Json → Bool
  | .array _ => true
  | _ => false

def isObject : Json → Bool
  | .object _ => true
  | _ => false

/-- Whether a value has all that an entity needs. -/
def isEntity (value : Json) : Bool :=
  isObject value && has value "id" && has value "name" &&
    ((value.get? "attributes").map isArray).getD false &&
    match value.get? "position" with
    | some position => isObject position && hasNumber position "x" && hasNumber position "y"
    | none => false

/-- Whether a value has all that a relationship needs. -/
def isRelationship (value : Json) : Bool :=
  isObject value && ["id", "from", "to", "type"].all (has value)

/-- The two lists of a document. -/
def lists? (value : Json) : Option (List Json × List Json) :=
  match value.get? "entities", value.get? "relationships" with
  | some (.array entities), some (.array relationships) => some (entities, relationships)
  | _, _ => none

/-- The enums of a document; anything but an object stands for none. -/
def enumDataOf (value : Json) : List (List CodePoint × Json) :=
  match value.get? "enum_data" with
  | some (.object members) => members
  | _ => []

/-- The source of a document; anything but a string stands for the empty one. -/
def sourceOf (value : Json) : List CodePoint :=
  match value.get? "source" with
  | some (.string text) => text
  | _ => []

def ofJson (value : Json) : Logged (Except Fault Document) :=
  if isObject value then
    match lists? value with
    | none => ⟨.error .notLists, []⟩
    | some (entities, relationships) =>
      { result :=
          if !entities.all isEntity then .error .invalidEntity
          else if !relationships.all isRelationship then .error .invalidRelationship
          else .ok ⟨entities, relationships, enumDataOf value, sourceOf value⟩
        events := [.diagramLoaded entities.length relationships.length] }
  else ⟨.error .notAnObject, []⟩

/-- Why a text is not loaded. -/
inductive LoadFault where
  /-- The text is no diagram document. -/
  | format (fault : Fault)
  /-- An integer has too many digits to be read.  That is no matter of the format, and nothing
  reports it. -/
  | digits (excess : Decimal.Excess)
  deriving DecidableEq, Repr

def load (limit? : Option Nat) (text : List Char) : Logged (Except LoadFault Document) :=
  match Json.parse limit? text with
  | .error fault =>
    match fault.reason.excess? with
    | some excess => ⟨.error (.digits excess), []⟩
    | none => ⟨.error (.format (.invalidJson fault text)), []⟩
  | .ok value => do
    let read ← ofJson value
    return read.mapError .format

end Document

def Diagram.dump (diagram : Diagram) : String := (Document.ofDiagram diagram).dump

def Diagram.dumpWithin (limit? : Option Nat) (diagram : Diagram) : Except Decimal.Excess String :=
  (Document.ofDiagram diagram).dumpWithin limit?

end Schemagram
