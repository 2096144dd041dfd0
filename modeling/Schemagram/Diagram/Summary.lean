import Schemagram.Diagram.Document
import Schemagram.Screen.View

/-!
# Summaries of diagram documents

What is shown of a document: its entities with the number of their attributes and their position,
the number of its relationships, and the names of its enums.

A document may name an entity by a value that is no string; such a name cannot be shown.
-/

namespace Schemagram.Document

open Text (CodePoint points)

def numberText : Json → String
  | .integer value => String.ofList (Decimal.integer value)
  | .double value => String.ofList (value.text Double.plainWords)
  | _ => ""

/-- What a value is that cannot be shown as a name. -/
def kindOf : Json → String
  | .null => "null"
  | .bool _ => "bool"
  | .integer _ => "int"
  | .double _ => "float"
  | .string _ => "str"
  | .array _ => "list"
  | .object _ => "dict"

/-- A name cannot be shown, because it is of some other kind than a string. -/
structure NameFault where
  kind : String
  deriving DecidableEq, Repr

def NameFault.message (fault : NameFault) : String :=
  "unable to render " ++ fault.kind ++ "; a string or other renderable object is required"

def entityName (entity : Json) : Except NameFault (List CodePoint) :=
  match entity.get? "name" with
  | some (.string text) => .ok text
  | some value => .error ⟨kindOf value⟩
  | none => .ok []

/-- The number of attributes of an entity. -/
def attributeCount (entity : Json) : String :=
  match entity.get? "attributes" with
  | some (.array items) => Decimal.text items.length
  | _ => Decimal.text 0

def positionText (entity : Json) : String :=
  let coordinate (key : String) :=
    (((entity.get? "position").bind (·.get? key)).map numberText).getD ""
  "(" ++ coordinate "x" ++ ", " ++ coordinate "y" ++ ")"

/-- The entities of a document on the screen. -/
def view (document : Document) : Except NameFault Screen.View := do
  let names ← document.entities.mapM entityName
  return {
    title := points "Diagram Summary"
    columns := [
      ⟨points "Entity", names⟩,
      .ofStrings "Attributes" (document.entities.map attributeCount),
      .ofStrings "Position" (document.entities.map positionText)]
    caption? := none }

/-- The number of relationships as a line of text. -/
def relationshipsLine (document : Document) : List CodePoint :=
  points ("Relationships: " ++ Decimal.text document.relationships.length)

/-- The names of the enums as a line of text. -/
def enumsLine (document : Document) : List CodePoint :=
  let names := List.intercalate (points ", ") (document.enumData.map Prod.fst)
  points "Enums: " ++ if names.isEmpty then points "none" else names

end Schemagram.Document
