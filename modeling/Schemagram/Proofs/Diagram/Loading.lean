import Schemagram.Proofs.Diagram.Document
import Schemagram.Proofs.Json.Characters
import Schemagram.Proofs.Json.Orderly

/-!
# Loading normalises once

A loaded document is part of what its text is read as: its two lists are the lists of the text with
everything in them, and of the rest only enums and source are kept.  Its own text holds the four
parts in a fixed order and is loaded as the same document, so that dumping it again changes nothing.
-/

namespace Schemagram

open Text (CodePoint IsBasic)

namespace Json

variable {limit? : Option Nat}

theorem Orderly.get? {json value : Json} (orderly : Orderly limit? json) {key : String}
    (found : json.get? key = some value) : Orderly limit? value := by
  cases orderly with
  | object distinct _ orderly => exact orderly _ ((Keyed.get?_eq_some_iff_mem distinct).1 found)
  | _ => cases found

theorem orderly_ofMembers {members : List (String × Json)} (distinct : (members.map Prod.fst).Nodup)
    (orderly : ∀ member ∈ members, Orderly limit? member.2) :
    Orderly limit? (ofMembers members) := by
  refine .object ?_ ?_ ?_
  · rw [keys_ofMembers]
    exact nodup_points distinct
  · intro member mem
    rcases List.mem_map.1 mem with ⟨⟨key, value⟩, _, rfl⟩
    exact joined_points key
  · intro member mem
    rcases List.mem_map.1 mem with ⟨⟨key, value⟩, memBefore, rfl⟩
    exact orderly _ memBefore

end Json

namespace Document

open Json

variable {limit? : Option Nat} {json : Json} {document : Document}

/-- What a value holds that is read as a document. -/
theorem of_ofJson (read : (ofJson json).result = .ok document) :
    json.get? "entities" = some (.array document.entities) ∧
      json.get? "relationships" = some (.array document.relationships) ∧
      document.enumData = enumDataOf json ∧ document.source = sourceOf json ∧
      document.entities.all isEntity = true ∧ document.relationships.all isRelationship = true := by
  unfold ofJson at read
  split at read
  · split at read
    · cases read
    · rename_i entities relationships lists
      dsimp only at read
      split at read
      · cases read
      rename_i areEntities
      split at read
      · cases read
      rename_i areRelationships
      cases read
      unfold lists? at lists
      split at lists
      · rename_i foundEntities foundRelationships
        cases lists
        exact ⟨foundEntities, foundRelationships, rfl,
          rfl, by simpa using areEntities, by simpa using areRelationships⟩
      · cases lists
  · cases read

/-- A document that passes the checks is read back from its own value. -/
theorem ofJson_toJson (read : (ofJson json).result = .ok document) :
    (ofJson document.toJson).result = .ok document := by
  rcases of_ofJson read with ⟨_, _, _, _, areEntities, areRelationships⟩
  rw [result_ofJson_toJson, areEntities, areRelationships]
  rfl

theorem orderly_toJson (orderly : Orderly limit? json)
    (read : (ofJson json).result = .ok document) :
    Orderly limit? document.toJson := by
  rcases of_ofJson read with ⟨entities, relationships, enumData, source, _, _⟩
  refine orderly_ofMembers (by simp) ?_
  simp only [List.forall_mem_cons, List.not_mem_nil, false_implies, implies_true, and_true]
  refine ⟨orderly.get? entities, orderly.get? relationships, ?_, ?_⟩
  · rw [enumData, enumDataOf]
    split
    · rename_i found
      exact orderly.get? found
    · exact .object List.nodup_nil (List.forall_mem_nil _) (List.forall_mem_nil _)
  · rw [source, sourceOf]
    split
    · rename_i found
      exact orderly.get? found
    · exact .string .nil

/-- Whether a document is dumped depends on its integers only. -/
theorem dumpWithin_of_fits (fits : document.toJson.fits limit? = true) :
    document.dumpWithin limit? = .ok document.dump := by
  rw [dumpWithin, fits]
  rfl

/-- The parts of a dumped document, in the order in which they stand in its text. -/
def parts : List String := ["entities", "relationships", "enum_data", "source"]

/-- What a text is read as that is loaded. -/
theorem of_load {text : List Char} (loaded : (load limit? text).result = .ok document) :
    ∃ json, Json.parse limit? text = .ok json ∧ (ofJson json).result = .ok document := by
  unfold load at loaded
  split at loaded
  · split at loaded <;> cases loaded
  · rename_i json isRead
    exact ⟨json, isRead, Except.mapError_eq_ok_iff.1 loaded⟩

/-- Loading normalises a text once.  The text of a loaded document is basic and its integers are
within the limit; it is loaded as the same document, and so it is the text that is dumped again.  It
has the four parts and no other ones; entities and relationships are those of the text that was
loaded, with all that they hold.

Of the doubles of the document, those with digits are supposed to be read back from their digits. -/
theorem load_dump_of_load {text : List Char} (loaded : (load limit? text).result = .ok document)
    (readBack : ∀ isNegative significand exponent,
      .finite isNegative significand exponent ∈ document.toJson.doubles →
        ReadsBack (.finite isNegative significand exponent)) :
    IsBasic document.dump.toList ∧ document.dumpWithin limit? = .ok document.dump ∧
    (load limit? document.dump.toList).result = .ok document ∧
    (load limit? document.dump.toList).result.map dump = .ok document.dump ∧
    ∃ read dumped, Json.parse limit? text = .ok read ∧ Json.parse limit? document.dump.toList =
      .ok (.object dumped) ∧
      Keyed.keys dumped = parts.map points ∧
      (Json.object dumped).get? "entities" = read.get? "entities" ∧
      (Json.object dumped).get? "relationships" = read.get? "relationships" := by
  rcases of_load loaded with ⟨read, isRead, loaded⟩
  have orderly := orderly_toJson (orderly_of_parse isRead) loaded
  have lasting : Lasting limit? document.toJson := by
    refine orderly.lasting fun value mem => ?_
    cases value with
    | nan => exact readsBack_nan
    | infinity isNegative => exact readsBack_infinity isNegative
    | finite isNegative significand exponent => exact readBack _ _ _ mem
  have reloaded : (load limit? document.dump.toList).result = .ok document := by
    rw [result_load_dump lasting, ofJson_toJson loaded]
    rfl
  have reread : Json.parse limit? document.dump.toList = .ok document.toJson := by
    rw [dump, String.toList_ofList, parse_printLines lasting]
  have isBasic : IsBasic document.dump.toList := by
    rw [dump, String.toList_ofList]
    exact isBasic_printLines 0 document.toJson
  have inText := of_ofJson loaded
  have inDump := of_ofJson (ofJson_toJson loaded)
  refine ⟨isBasic, dumpWithin_of_fits orderly.fits, reloaded, by rw [reloaded]; rfl, read, _,
    isRead, reread, rfl, ?_, ?_⟩
  · exact inDump.1.trans inText.1.symm
  · exact inDump.2.1.trans inText.2.1.symm

/-- A text with repeated keys, a part that no document has, surrogates with and without a partner,
and doubles. -/
def untidyText : List Char := "\x7b
  \"version\": 1.5,
  \"source\": \"\\ud83d\\ude00 \\ude00\\ud83d\",
  \"entities\": [\x7b\"id\": \"é\", \"note\": [NaN, -Infinity], \"name\": \"\\ud800\\u0007\",
    \"attributes\": [], \"position\": \x7b\"x\": 0.5, \"y\": 2\x7d, \"id\": 7\x7d],
  \"relationships\": []
\x7d".toList

/-- One half. -/
def half : Double := .finite false 4503599627370496 (-53)

theorem readsBack_half : ReadsBack half := by
  have isWhole : IsWhole ['0'] := by
    unfold IsWhole AreDigits
    decide
  have isFraction : WritesFraction ['.', '5'] ['5'] := by
    apply WritesFraction.digits
    unfold AreDigits
    decide
  have written : Double.text doubleWords half = ['0', '.', '5'] := by decide +kernel
  have value : numeral false ['0'] ['5'] none = .double half := by
    have isHalf : Double.ofDecimal false (Decimal.ofDigits ['0', '5']) (-1) = half := by
      decide +kernel
    exact congrArg Json.double isHalf
  have isNumber := WritesNumber.parts .none isWhole isFraction .none
  rw [value] at isNumber
  apply readsBack_of_writesNumber
  rw [written]
  exact isNumber

theorem load_dump_of_load_untidyText : ∃ document, (load none untidyText).result = .ok document ∧
    (∀ isNegative significand exponent,
      .finite isNegative significand exponent ∈ document.toJson.doubles →
      ReadsBack (.finite isNegative significand exponent)) ∧
    IsBasic document.dump.toList ∧ (load none document.dump.toList).result = .ok document := by
  have doubles : (load none untidyText).result.toOption.map (Json.doubles ∘ toJson) =
      some [.nan, .infinity true, half] := by decide +kernel
  cases loaded : (load none untidyText).result with
  | error fault =>
    rw [loaded] at doubles
    cases doubles
  | ok document =>
    rw [loaded] at doubles
    have readBack (isNegative : Bool) (significand : Nat) (exponent : Int)
        (mem : .finite isNegative significand exponent ∈ document.toJson.doubles) :
        ReadsBack (.finite isNegative significand exponent) := by
      rw [show document.toJson.doubles = _ from Option.some.inj doubles] at mem
      simp only [List.mem_cons, List.not_mem_nil, or_false, reduceCtorEq, false_or] at mem
      rw [mem]
      exact readsBack_half
    have normalised := load_dump_of_load loaded readBack
    exact ⟨document, rfl, readBack, normalised.1, normalised.2.2.1⟩

end Document

end Schemagram
