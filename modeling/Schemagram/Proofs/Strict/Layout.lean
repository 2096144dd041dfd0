import Schemagram.Proofs.Scan.Writing
import Schemagram.Proofs.Strict.Places

/-!
# Layout and comments change nothing

The tokens of a text may be written with any white space and any comments around them.  As long as
something stands between each two of them, they are read again: none is cut, no two become one, and
a comment is never taken for anything else, whatever is written in it.  Since the grammar reads
nothing but lexemes, the new text has the same result.
-/

namespace Schemagram.Strict

open Text Writing Computability

/-! ### What may stand around tokens -/

namespace Layout

/-- A single white space character. -/
def whiteSpace : Language Char := {text | ∃ char, isSpace char = true ∧ text = [char]}

/-- A comment without the line end behind it. -/
def comment : Language Char :=
  {text | ∃ inside, (∀ char ∈ inside, char ≠ '\n') ∧ text = '/' :: '/' :: inside}

/-- White space and comments with their line ends, in any order. -/
def gap : Language Char := (whiteSpace + comment * mark '\n')∗

/-- A gap that is not empty. -/
def separator : Language Char := {text | text ∈ gap ∧ text ≠ []}

/-- What may stand behind the last token: the comment that ends a text needs no line end. -/
def ending : Language Char := gap * (1 + comment)

/-- The texts in which every token is written behind a separator. -/
def separated : List String → Language Char
  | [] => ending
  | token :: more => separator * (exactly token.toList * separated more)

/-- The texts that consist of tokens with separators between them. -/
def ofTokens : List String → Language Char
  | [] => ending
  | token :: more => gap * (exactly token.toList * separated more)

variable {text rest : List Char}

theorem mem_gap_of_spaces (spaces : ∀ char ∈ text, isSpace char = true) : text ∈ gap := by
  refine Language.mem_kstar.2 ⟨text.map ([·]), ?_, ?_⟩
  · rw [← List.flatMap_def, List.flatMap_singleton']
  · intro part mem
    rcases List.mem_map.1 mem with ⟨char, charMem, rfl⟩
    exact .inl ⟨char, spaces char charMem, rfl⟩

theorem mem_gap_append (written : text ∈ gap) (more : rest ∈ gap) : text ++ rest ∈ gap := by
  rcases Language.mem_kstar.1 written with ⟨parts, rfl, areParts⟩
  rcases Language.mem_kstar.1 more with ⟨others, rfl, areOthers⟩
  refine Language.mem_kstar.2 ⟨parts ++ others, List.flatten_append.symm, ?_⟩
  exact List.forall_mem_append.2 ⟨areParts, areOthers⟩

theorem mem_gap_comment (inLine : ∀ char ∈ text, char ≠ '\n') :
    '/' :: '/' :: text ++ ['\n'] ∈ gap := by
  refine Language.mem_kstar.2 ⟨['/' :: '/' :: text ++ ['\n']], by simp, ?_⟩
  rw [List.forall_mem_singleton]
  exact .inr (Language.mem_mul.2 ⟨_, ⟨text, inLine, rfl⟩, _, mem_mark.2 rfl, rfl⟩)

/-- A text is in a layout when it is written piece by piece: a separator, the token behind it, and
so on. -/
theorem mem_separated {pieces : List (List Char × String)}
    (written : ∀ piece ∈ pieces, piece.1 ∈ separator) (ends : rest ∈ ending) :
    pieces.flatMap (fun piece => piece.1 ++ piece.2.toList) ++
      rest ∈ separated (pieces.map Prod.snd) := by
  induction pieces with
  | nil => exact ends
  | cons piece more ih =>
    rw [List.forall_mem_cons] at written
    refine Language.mem_mul.2 ⟨piece.1, written.1, _, Language.mem_mul.2 ⟨piece.2.toList,
      mem_exactly.2 rfl, _, ih written.2, rfl⟩, ?_⟩
    simp [List.append_assoc]

/-! ### No word goes on in a separator -/

theorem ends_whiteSpace (written : text ∈ whiteSpace) : Ends isWord (text ++ rest) := by
  rcases written with ⟨char, space, rfl⟩
  exact ends_cons.2 (isWord_of_isSpace space)

theorem ends_comment (written : text ∈ comment) : Ends isWord (text ++ rest) := by
  rcases written with ⟨inside, _, rfl⟩
  rw [List.cons_append, ends_cons]
  decide

theorem ends_gap (written : text ∈ gap) (ends : Ends isWord rest) : Ends isWord (text ++ rest) := by
  rcases Language.mem_kstar.1 written with ⟨parts, rfl, areParts⟩
  cases parts with
  | nil => exact ends
  | cons part more =>
    rw [List.forall_mem_cons] at areParts
    rw [List.flatten_cons, List.append_assoc]
    rcases areParts.1 with space | closed
    · exact ends_whiteSpace space
    · rcases Language.mem_mul.1 closed with ⟨inside, isComment, lineEnd, _, rfl⟩
      rw [List.append_assoc]
      exact ends_comment isComment

theorem ends_separator (written : text ∈ separator) : Ends isWord (text ++ rest) := by
  have ends : Ends isWord text := by
    rw [← List.append_nil text]
    exact ends_gap written.1 (ends_nil isWord)
  exact ends_append ends written.2

theorem ends_ending (written : text ∈ ending) : Ends isWord text := by
  rcases Language.mem_mul.1 written with ⟨before, isGap, last, isLast, rfl⟩
  refine ends_gap isGap ?_
  rcases isLast with none | isComment
  · rw [(Language.mem_one _).1 none]
    exact ends_nil isWord
  · rw [← List.append_nil last]
    exact ends_comment isComment

theorem ends_separated {tokens : List String} (written : text ∈ separated tokens) :
    Ends isWord text := by
  cases tokens with
  | nil => exact ends_ending written
  | cons token more =>
    rcases Language.mem_mul.1 written with ⟨before, isSeparator, behind, _, rfl⟩
    exact ends_separator isSeparator

/-! ### The lexemes of a layout -/

theorem lexemesOf_gap (written : text ∈ gap) (rest : List Char) :
    lexemesOf (text ++ rest) = lexemesOf rest := by
  rcases Language.mem_kstar.1 written with ⟨parts, rfl, areParts⟩
  clear written
  induction parts with
  | nil => rfl
  | cons part more ih =>
    rw [List.forall_mem_cons] at areParts
    rw [List.flatten_cons, List.append_assoc, ← ih areParts.2]
    rcases areParts.1 with ⟨char, space, rfl⟩ | closed
    · exact lexemesOf_space space _
    · rcases Language.mem_mul.1 closed with ⟨_, ⟨inside, inLine, rfl⟩, _, isLineEnd, rfl⟩
      rw [mem_mark.1 isLineEnd, List.append_assoc, List.singleton_append,
        lexemesOf_comment inLine (ends_cons.2 (by decide)), lexemesOf_space (by decide)]

theorem lexemesOf_ending (written : text ∈ ending) : lexemesOf text = ⟨[], none⟩ := by
  rcases Language.mem_mul.1 written with ⟨before, isGap, last, isLast, rfl⟩
  rw [lexemesOf_gap isGap]
  rcases isLast with none | ⟨inside, inLine, rfl⟩
  · rw [(Language.mem_one _).1 none, lexemesOf_nil]
  · rw [← List.append_nil ('/' :: '/' :: inside), lexemesOf_comment inLine (by simp), lexemesOf_nil]

/-- A token in front of something that does not continue a word is read as it is. -/
theorem lexemesOf_placed (token : Token) (ends : Ends isWord rest) :
    lexemesOf (token.text.toList ++ rest) = (lexemesOf rest).after [token.lexeme] := by
  rw [lexemesOf_token token.form fun _ => ends, String.ofList_toList]
  rfl

theorem lexemesOf_separated {tokens : List Token}
    (written : text ∈ separated (tokens.map Token.text)) :
    lexemesOf text = ⟨tokens.map Token.lexeme, none⟩ := by
  induction tokens generalizing text with
  | nil => exact lexemesOf_ending written
  | cons token more ih =>
    rcases Language.mem_mul.1 written with ⟨before, isSeparator, _, behind, rfl⟩
    rcases Language.mem_mul.1 behind with ⟨_, isToken, rest, isRest, rfl⟩
    rw [lexemesOf_gap isSeparator.1, mem_exactly.1 isToken,
      lexemesOf_placed token (ends_separated isRest), ih isRest]
    rfl

/-- The tokens that a layout consists of are read from it. -/
theorem lexemesOf_ofTokens {tokens : List Token}
    (written : text ∈ ofTokens (tokens.map Token.text)) :
    lexemesOf text = ⟨tokens.map Token.lexeme, none⟩ := by
  cases tokens with
  | nil => exact lexemesOf_ending written
  | cons token more =>
    rcases Language.mem_mul.1 written with ⟨before, isGap, _, behind, rfl⟩
    rcases Language.mem_mul.1 behind with ⟨_, isToken, rest, isRest, rfl⟩
    rw [lexemesOf_gap isGap, mem_exactly.1 isToken, lexemesOf_placed token (ends_separated isRest),
      lexemesOf_separated isRest]
    rfl

end Layout

/-- The tokens of a text may be laid out in any other way: the result stays the same.  The same
declarations are read, or both texts are refused for the same cause. -/
theorem parse?_of_layout {text other : String} (tokenizes : (Tokens.ofString text).stopped? = none)
    (layout : other.toList ∈ Layout.ofTokens ((Tokens.ofString text).tokens.map Token.text)) :
    (parse? other).result = (parse? text).result ∧
      (declarations other).mapError Mismatch.cause =
      (declarations text).mapError Mismatch.cause := by
  have sameLexemes : lexemesOf other.toList = lexemesOf text.toList := by
    rw [Layout.lexemesOf_ofTokens layout, lexemesOf, Tokens.unplaced]
    exact congrArg _ (congrArg (Option.map Mismatch.cause) tokenizes).symm
  exact ⟨result_parse?_congr sameLexemes, declarations_congr sameLexemes⟩

/-- A text whose tokens touch each other, with the sizes of a type and a note that looks like a
comment. -/
def crowded : String := "Table t\x7bp decimal(10,2)[note:'a//b']\x7d"

/-- The tokens of a text with white space and comments around each of them. -/
def spacious : String :=
  "// it's\n Table t // \x7b\n \x7b p decimal ( 10 , 2 ) [ note : 'a//b' ] \x7d // \""

theorem parse?_spacious :
    (Tokens.ofString crowded).stopped? = none ∧
      spacious.toList ∈ Layout.ofTokens ((Tokens.ofString crowded).tokens.map Token.text) ∧
      (parse? crowded).result ≠ none ∧ (parse? spacious).result = (parse? crowded).result := by
  have tokenizes : (Tokens.ofString crowded).stopped? = none := by decide +kernel
  have isAccepted : (parse? crowded).result ≠ none := by decide +kernel
  have tokens : (Tokens.ofString crowded).tokens.map Token.text =
      ["Table", "t", "\x7b", "p", "decimal", "(", "10", ",", "2", ")", "[", "note", ":",
        "'a//b'", "]",
        "\x7d"] := by decide +kernel
  have blank : [' '] ∈ Layout.gap := Layout.mem_gap_of_spaces (by decide)
  have isSeparator : [' '] ∈ Layout.separator := ⟨blank, by decide⟩
  have quoteComment : '/' :: '/' :: " it's".toList ++ ['\n'] ∈ Layout.gap :=
    Layout.mem_gap_comment (by decide)
  have braceComment : '/' :: '/' :: " \x7b".toList ++ ['\n'] ∈ Layout.gap :=
    Layout.mem_gap_comment (by decide)
  have isEnding : " // \"".toList ∈ Layout.ending :=
    Language.mem_mul.2 ⟨[' '], blank, _, .inr ⟨" \"".toList, by decide, rfl⟩, rfl⟩
  have layout : spacious.toList ∈ Layout.ofTokens
      ((Tokens.ofString crowded).tokens.map Token.text) := by
    rw [tokens]
    let pieces : List (List Char × String) := ([' '], "t") :: (" // \x7b\n ".toList, "\x7b") ::
      ["p", "decimal", "(", "10", ",", "2", ")", "[", "note", ":", "'a//b'", "]",
        "\x7d"].map ([' '], ·)
    have separated : ∀ piece ∈ pieces, piece.1 ∈ Layout.separator := by
      refine List.forall_mem_cons.2 ⟨isSeparator, List.forall_mem_cons.2 ⟨⟨?_, by decide⟩, ?_⟩⟩
      · exact Layout.mem_gap_append blank (Layout.mem_gap_append braceComment blank)
      · exact List.forall_mem_map.2 fun _ _ => isSeparator
    exact Language.mem_mul.2 ⟨_, Layout.mem_gap_append quoteComment blank, _, Language.mem_mul.2
      ⟨_, mem_exactly.2 rfl, _, Layout.mem_separated separated isEnding, rfl⟩, by decide⟩
  exact ⟨tokenizes, layout, isAccepted, (parse?_of_layout tokenizes layout).1⟩

end Schemagram.Strict
