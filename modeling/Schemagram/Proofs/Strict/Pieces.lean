import Schemagram.Proofs.Strict.Derivation
import Schemagram.Proofs.Strict.Places

/-!
# Pieces of an accepted text

Every accepted text can be cut into pieces, one for each of its declarations.  A piece declares by
itself what it declares in the text, with whatever white space and comments stand before it, and
pieces that are written line by line declare the same again, in the order in which they are written.
-/

namespace Schemagram.Strict

/-- The lexemes of a derivation, phrase by phrase. -/
def Derivation.lexemes (derivation : Derivation) : List (Token.Kind × String) :=
  derivation.flatMap fun phrase => phrase.tokens.map Token.lexeme

theorem Derivation.map_lexeme_tokens (derivation : Derivation) :
    derivation.tokens.map Token.lexeme = derivation.lexemes :=
  List.map_flatMap

/-- A text declares something exactly if its lexemes are those of a derivation that declares it. -/
theorem declarations_eq_ok_iff_lexemes {text : String} {found : List Declaration} :
    declarations text = .ok found ↔ ∃ derivation : Derivation,
      derivation.map DeclarationPhrase.declaration = found ∧
        lexemesOf text.toList = ⟨derivation.lexemes, none⟩ := by
  constructor
  · intro accepted
    rcases declarations_eq_ok.1 accepted with ⟨tokenizes, derivation, declared, sameTokens⟩
    refine ⟨derivation, declared, ?_⟩
    rw [← derivation.map_lexeme_tokens, sameTokens, lexemesOf, Tokens.unplaced]
    exact congrArg _ (congrArg (Option.map Mismatch.cause) tokenizes)
  · rintro ⟨derivation, rfl, read⟩
    rw [← derivation.map_lexeme_tokens, lexemesOf, Tokens.unplaced, Lexemes.mk.injEq,
      Option.map_eq_none_iff] at read
    rcases read with ⟨lexemes, tokenizes⟩
    have derives : Grammar.schema text.length derivation.tokens =
        .ok (derivation.map DeclarationPhrase.declaration, []) :=
      (Grammar.schema_eq_ok _).2 ⟨rfl, derivation, rfl, rfl⟩
    have ends := Grammar.agrees_schema text.length text.length lexemes.symm
    rw [derives] at ends
    simp only [declarations, Tokens.ofString, tokenizes]
    generalize Grammar.schema text.length _ = result at ends
    cases ends with
    | ok parts left => exact congrArg Except.ok parts.symm

/-- A text with a single declaration. -/
structure Piece where
  text : String
  declaration : Declaration
  declares : declarations text = .ok [declaration]

namespace Piece

/-- Pieces line by line. -/
def lines (pieces : List Piece) : String := String.join (pieces.map (·.text ++ "\n"))

/-- The lexemes of pieces are the lexemes of a phrase for each of them. -/
theorem exists_derivation (pieces : List Piece) : ∃ derivation : Derivation,
    derivation.map DeclarationPhrase.declaration = pieces.map declaration ∧
      lexemesOf (lines pieces).toList = ⟨derivation.lexemes, none⟩ := by
  induction pieces with
  | nil => exact ⟨[], rfl, lexemesOf_nil⟩
  | cons piece more ih =>
    rcases declarations_eq_ok_iff_lexemes.1 piece.declares with ⟨first, declaredFirst, readFirst⟩
    rcases ih with ⟨derivation, declared, readMore⟩
    have split : (lines (piece :: more)).toList = piece.text.toList ++
        '\n' :: (lines more).toList := by
      simp [lines]
    refine ⟨first ++ derivation, ?_, ?_⟩
    · rw [List.map_append, declaredFirst, declared, List.map_cons, List.singleton_append]
    · rw [split, lexemesOf_append_line readFirst, readMore, Derivation.lexemes, Derivation.lexemes,
        Derivation.lexemes, List.flatMap_append]
      rfl

/-- Pieces that are written line by line declare one after the other what each of them declares. -/
theorem declarations_lines (pieces : List Piece) :
    declarations (lines pieces) = .ok (pieces.map declaration) :=
  declarations_eq_ok_iff_lexemes.2 (exists_derivation pieces)

end Piece

theorem exists_pieces_of_lexemes {text : List Char} {derivation : Derivation}
    (read : lexemesOf text = ⟨derivation.lexemes, none⟩) :
    ∃ (pieces : List Piece) (rest : List Char),
      text = pieces.flatMap (·.text.toList) ++ rest ∧ lexemesOf rest = ⟨[], none⟩ ∧
      pieces.map Piece.declaration = derivation.map DeclarationPhrase.declaration := by
  induction derivation generalizing text with
  | nil => exact ⟨[], text, rfl, read, rfl⟩
  | cons phrase more ih =>
    rw [Derivation.lexemes, List.flatMap_cons] at read
    rcases exists_cut read with ⟨first, others, rfl, readFirst, readOthers⟩
    rcases ih readOthers with ⟨pieces, rest, rfl, readRest, declared⟩
    have declares : declarations (String.ofList first) = .ok [phrase.declaration] := by
      refine declarations_eq_ok_iff_lexemes.2 ⟨[phrase], rfl, ?_⟩
      rw [String.toList_ofList, readFirst, Derivation.lexemes, List.flatMap_singleton]
    refine ⟨⟨String.ofList first, phrase.declaration, declares⟩ :: pieces, rest, ?_, readRest, ?_⟩
    · rw [List.flatMap_cons, String.toList_ofList, List.append_assoc]
    · rw [List.map_cons, List.map_cons, declared]

/-- An accepted text consists of a piece for each of its declarations, and of a rest without any. -/
theorem exists_pieces {text : String} {found : List Declaration}
    (accepted : declarations text = .ok found) :
    ∃ (pieces : List Piece) (rest : String),
      text = String.join (pieces.map Piece.text) ++ rest ∧ declarations rest = .ok [] ∧
      pieces.map Piece.declaration = found := by
  rcases declarations_eq_ok_iff_lexemes.1 accepted with ⟨derivation, rfl, read⟩
  rcases exists_pieces_of_lexemes read with ⟨pieces, rest, split, readRest, declared⟩
  refine ⟨pieces, String.ofList rest, ?_, ?_, declared⟩
  · rw [← String.toList_inj, split]
    simp [List.flatMap_map]
  · refine declarations_eq_ok_iff_lexemes.2 ⟨[], rfl, ?_⟩
    rw [String.toList_ofList, readRest]
    rfl

end Schemagram.Strict
