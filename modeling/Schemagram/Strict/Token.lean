import Schemagram.Text.Piece
import Schemagram.Strict.Mismatch

/-!
# Tokens of the strict grammar

A schema text is read as words, quoted strings and punctuation marks; white space and comments,
which run from `//` to the end of their line, separate tokens and are dropped.  A token knows the
offset at which it starts.

`Lexeme.step?_append` and `Lexeme.step?_ne_nil` say that one step takes a nonempty beginning off the
text and loses nothing.  A token carries the form of its text, which `Lexeme.form_of_step?` gives.
-/

namespace Schemagram.Strict

open Text (isSpace isWord)

inductive Token.Kind where
  /-- A text between two equal quotes on one line. -/
  | string
  /-- A run of word characters. -/
  | word
  /-- A single punctuation mark. -/
  | punctuation
  deriving DecidableEq, Repr

/-- The marks that are tokens by themselves. -/
def Lexeme.isPunctuation (char : Char) : Bool := "\x7b\x7d[](),:.<>".toList.contains char

/-- The form that the text of a token of some kind has. -/
inductive Token.Form : Token.Kind → List Char → Prop where
  | string {quote : Char} {inside : List Char} (isQuote : quote = '"' ∨ quote = '\'')
      (unbroken : ∀ char ∈ inside, char ≠ quote ∧ char ≠ '\n') :
      Token.Form .string (quote :: (inside ++ [quote]))
  | word {text : List Char} (nonempty : text ≠ []) (isRun : ∀ char ∈ text, isWord char = true) :
      Token.Form .word text
  | punctuation {mark : Char} (isMark : Lexeme.isPunctuation mark = true) :
      Token.Form .punctuation [mark]

/-- A lexical token with its offset in the text. -/
structure Token where
  kind : Token.Kind
  text : String
  position : Nat
  form : Token.Form kind text.toList
  deriving DecidableEq, Repr

namespace Lexeme

/-- The rest of a quoted string up to its closing quote, which has to come before the line ends. -/
def closeQuote? (quote : Char) : List Char → Option (List Char × List Char)
  | [] => none
  | char :: rest =>
    if char = quote then some ([char], rest)
    else if char = '\n' then none
    else (closeQuote? quote rest).map fun (inner, after) => (char :: inner, after)

/-- What one step reads: the kind of token, none for white space and comments; the characters read;
and what follows them. -/
structure Step where
  kind? : Option Token.Kind
  lexeme : List Char
  rest : List Char

/-- Reads one token, one run of white space or one comment off a text that does not begin with
anything else. -/
def step? : List Char → Option Step
  | [] => none
  | char :: rest =>
    if isSpace char then some ⟨none, char :: rest.takeWhile isSpace, rest.dropWhile isSpace⟩
    else if char = '/' then
      match rest with
      | '/' :: rest =>
        some ⟨none, '/' :: '/' :: rest.takeWhile (· ≠ '\n'), rest.dropWhile (· ≠ '\n')⟩
      | _ => none
    else if char = '"' || char = '\'' then
      (closeQuote? char rest).map fun (inner, rest) => ⟨some .string, char :: inner, rest⟩
    else if isWord char then
      some ⟨some .word, char :: rest.takeWhile isWord, rest.dropWhile isWord⟩
    else if isPunctuation char then some ⟨some .punctuation, [char], rest⟩
    else none

theorem closeQuote?_append {quote : Char} {text inner after : List Char}
    (closed : closeQuote? quote text = some (inner, after)) : inner ++ after = text := by
  induction text generalizing inner with
  | nil => simp [closeQuote?] at closed
  | cons char rest ih =>
    unfold closeQuote? at closed
    split at closed
    · cases closed
      simp_all
    · split at closed
      · simp at closed
      · simp only [Option.map_eq_some_iff, Prod.mk.injEq] at closed
        rcases closed with ⟨⟨found, left⟩, foundEq, rfl, rfl⟩
        simp [ih foundEq]

/-- A step loses no character. -/
theorem step?_append {text : List Char} {step : Step} (read : step? text = some step) :
    step.lexeme ++ step.rest = text := by
  cases text with
  | nil => simp [step?] at read
  | cons char rest =>
    simp only [step?] at read
    split at read
    · cases read
      simp
    split at read
    · split at read
      · cases read
        simp_all
      · simp at read
    split at read
    · rcases Option.map_eq_some_iff.1 read with ⟨⟨inner, after⟩, closed, rfl⟩
      simp [closeQuote?_append closed]
    split at read
    · cases read
      simp
    split at read
    · cases read
      simp
    · simp at read

/-- A step reads at least one character. -/
theorem step?_ne_nil {text : List Char} {step : Step} (read : step? text = some step) :
    step.lexeme ≠ [] := by
  cases text with
  | nil => simp [step?] at read
  | cons char rest =>
    simp only [step?] at read
    split at read
    · cases read
      simp
    split at read
    · split at read
      · cases read
        simp
      · simp at read
    split at read
    · rcases Option.map_eq_some_iff.1 read with ⟨⟨inner, after⟩, _, rfl⟩
      simp
    split at read
    · cases read
      simp
    split at read
    · cases read
      simp
    · simp at read

theorem length_rest_lt {text : List Char} {step : Step} (read : step? text = some step) :
    step.rest.length < text.length := by
  have whole := congrArg List.length (step?_append read)
  have nonempty := List.length_pos_iff.mpr (step?_ne_nil read)
  simp only [List.length_append] at whole
  omega

theorem form_of_closeQuote? {quote : Char} (isQuote : quote = '"' ∨ quote = '\'')
    {text inner after : List Char} (closed : closeQuote? quote text = some (inner, after)) :
    Token.Form .string (quote :: inner) := by
  suffices parts : ∃ inside, inner = inside ++ [quote] ∧ ∀ char ∈ inside, char ≠ quote ∧
      char ≠ '\n' by
    rcases parts with ⟨inside, rfl, unbroken⟩
    exact .string isQuote unbroken
  induction text generalizing inner with
  | nil => simp [closeQuote?] at closed
  | cons char rest ih =>
    unfold closeQuote? at closed
    split at closed
    · cases closed
      exact ⟨[], by simp_all, by simp⟩
    · split at closed
      · simp at closed
      · simp only [Option.map_eq_some_iff, Prod.mk.injEq] at closed
        rcases closed with ⟨⟨found, left⟩, foundEq, rfl, rfl⟩
        rcases ih foundEq with ⟨inside, rfl, unbroken⟩
        exact ⟨char :: inside, rfl, by simpa using ⟨⟨by assumption, by assumption⟩, unbroken⟩⟩

/-- What a step reads has the form of its kind. -/
theorem form_of_step? {text : List Char} {step : Step} (read : step? text = some step)
    {kind : Token.Kind} (isKind : step.kind? = some kind) : Token.Form kind step.lexeme := by
  cases text with
  | nil => simp [step?] at read
  | cons char rest =>
    simp only [step?] at read
    split at read
    · cases read
      cases isKind
    split at read
    · split at read
      · cases read
        cases isKind
      · simp at read
    split at read
    · rename_i isQuote
      rcases Option.map_eq_some_iff.1 read with ⟨⟨inner, after⟩, closed, rfl⟩
      cases isKind
      exact form_of_closeQuote? (by simpa using isQuote) closed
    split at read
    · rename_i isWordChar
      cases read
      cases isKind
      refine .word (by simp) fun other mem => ?_
      rcases List.mem_cons.mp mem with rfl | mem
      · exact isWordChar
      · exact List.all_eq_true.1 List.all_takeWhile other mem
    split at read
    · rename_i isMark
      cases read
      cases isKind
      exact .punctuation isMark
    · simp at read

end Lexeme

/-- The tokens of a text, and the mismatch at the first character that starts none. -/
structure Tokens where
  tokens : List Token
  stopped? : Option Mismatch

namespace Tokens

/-- The tokens of a text that starts at an offset. -/
def ofCharsAt (position : Nat) (text : List Char) : Tokens :=
  match text with
  | [] => ⟨[], none⟩
  | char :: rest =>
    match read : Lexeme.step? (char :: rest) with
    | none => ⟨[], some ⟨.unexpectedCharacter char, position⟩⟩
    | some step =>
      let more := ofCharsAt (position + step.lexeme.length) step.rest
      match isKind : step.kind? with
      | none => more
      | some kind =>
        let token : Token := {
          kind, position
          text := String.ofList step.lexeme
          form := by simpa using Lexeme.form_of_step? read isKind }
        ⟨token :: more.tokens, more.stopped?⟩
termination_by text.length
decreasing_by exact Lexeme.length_rest_lt read

def ofString (text : String) : Tokens := ofCharsAt 0 text.toList

end Tokens

end Schemagram.Strict
