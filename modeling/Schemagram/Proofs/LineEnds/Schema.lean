import Schemagram.Proofs.LineEnds.Dialects
import Schemagram.Proofs.Strict.Places

/-!
# Line ends in schema descriptions

A text says the same with line feeds and with a carriage return in front of each of them: to the
strict grammar, to the dialects, and to their detection.
-/

namespace Schemagram

open Text Scan

namespace Text

theorem infix_of_infix_cons {part rest : List Char} {mark : Char} (absent : mark ∉ part)
    (isPart : part <:+: mark :: rest) : part <:+: rest := by
  have atMark : part <:+: [] ++ mark :: rest := isPart
  rcases infix_append_cons absent atMark with isEmpty | inRest
  · rw [List.infix_nil.1 isEmpty]
    exact List.nil_infix
  · exact inRest

theorem prefix_withReturns {part text : List Char} (noReturn : '\r' ∉ part)
    (isPrefix : part <+: withReturns text) :
    part <+: text := by
  induction text generalizing part with
  | nil => exact isPrefix
  | cons char rest ih =>
    cases part with
    | nil => exact List.nil_prefix
    | cons first more =>
      rw [List.mem_cons, not_or] at noReturn
      by_cases isLine : char = '\n'
      · rw [isLine, withReturns_line, List.cons_prefix_cons] at isPrefix
        exact absurd isPrefix.1.symm noReturn.1
      · rw [withReturns_cons isLine, List.cons_prefix_cons] at isPrefix
        exact List.cons_prefix_cons.2 ⟨isPrefix.1, ih noReturn.2 isPrefix.2⟩

/-- A part on one line stands in both texts or in none. -/
theorem infix_withReturns_iff {part text : List Char} (noReturn : '\r' ∉ part)
    (noLine : '\n' ∉ part) :
    part <:+: withReturns text ↔ part <:+: text := by
  constructor
  · intro isPart
    induction text with
    | nil => exact isPart
    | cons char rest ih =>
      by_cases isLine : char = '\n'
      · rw [isLine, withReturns_line] at isPart
        exact List.infix_cons
          (ih (infix_of_infix_cons noLine (infix_of_infix_cons noReturn isPart)))
      · rw [withReturns_cons isLine, List.infix_cons_iff, ← withReturns_cons isLine] at isPart
        rcases isPart with isPrefix | isPart
        · exact (prefix_withReturns noReturn isPrefix).isInfix
        · exact List.infix_cons (ih isPart)
  · rintro ⟨before, after, rfl⟩
    rw [withReturns_append, withReturns_append, withReturns_of_not_mem noLine]
    exact ⟨withReturns before, withReturns after, rfl⟩

theorem lower_withReturns (text : List Char) :
    lower (withReturns text) = withReturns (lower text) := by
  induction text with
  | nil => rfl
  | cons char rest ih =>
    by_cases isLine : char = '\n'
    · rw [isLine, withReturns_line, lower_cons, lower_cons, lower_cons, ih]
      rfl
    · have noLine : '\n' ∉ lowerChar char := by
        rcases lowerChar_cases char with isSmall | ⟨_, isForeign⟩
        · have same := @test_small (fun letter => decide (letter = '\n')) (by decide) char
          simp only [isLine, decide_false, decide_eq_false_iff_not] at same
          rw [isSmall, List.mem_singleton]
          exact Ne.symm same
        · exact fun mem => absurd (isForeign '\n' mem) (by decide)
      rw [withReturns_cons isLine, lower_cons, lower_cons, ih, withReturns_append,
        withReturns_of_not_mem noLine]

end Text

theorem Dialect.detect_withReturns (text : List Char) :
    detect (withReturns text) = detect text := by
  have same (part : List Char) (noReturn : '\r' ∉ part) (noLine : '\n' ∉ part) (text : List Char) :
      contains part (withReturns text) = contains part text := by
    rw [Bool.eq_iff_iff, contains_iff, contains_iff, infix_withReturns_iff noReturn noLine]
  unfold detect
  rw [lower_withReturns, same _ (by decide) (by decide), same _ (by decide) (by decide),
    same _ (by decide) (by decide)]

namespace Strict

open Lexeme

/-- A quoted text ends on its line. -/
theorem closeQuote?_withReturns {quote : Char} (noReturn : quote ≠ '\r') (noLine : quote ≠ '\n')
    (text : List Char) :
    closeQuote? quote (withReturns text) =
      (closeQuote? quote text).map fun (inner, after) => (inner, withReturns after) := by
  induction text with
  | nil => rfl
  | cons char rest ih =>
    by_cases isLine : char = '\n'
    · simp [isLine, withReturns_line, closeQuote?, noReturn.symm, noLine.symm]
    · rw [withReturns_cons isLine, closeQuote?, closeQuote?, if_neg isLine, if_neg isLine, ih]
      split
      · rfl
      · cases closeQuote? quote rest <;> rfl

/-- A character that starts nothing is no line end, and starts nothing in the other text. -/
theorem step?_withReturns_of_none {char : Char} {rest : List Char}
    (failed : step? (char :: rest) = none) :
    char ≠ '\n' ∧ step? (char :: withReturns rest) = none := by
  simp only [step?] at failed ⊢
  split at failed
  · cases failed
  rename_i noSpace
  refine ⟨fun isLine => noSpace (by rw [isLine]; decide), ?_⟩
  rw [if_neg noSpace]
  split at failed
  · rename_i isSlash
    rw [if_pos isSlash]
    split at failed
    · cases failed
    · rename_i noComment
      cases rest with
      | nil => rfl
      | cons next more =>
        have noSlash : next ≠ '/' := by
          rintro rfl
          exact noComment more rfl
        by_cases isLine : next = '\n'
        · rw [isLine, withReturns_line]
          rfl
        · rw [withReturns_cons isLine]
          simp [noSlash]
  rename_i noSlash
  rw [if_neg noSlash]
  split at failed
  · rename_i isQuote
    have noLineEnd : char ≠ '\r' ∧ char ≠ '\n' := by
      constructor <;> rintro rfl <;> exact absurd isQuote (by decide)
    rw [if_pos isQuote, closeQuote?_withReturns noLineEnd.1 noLineEnd.2,
      Option.map_eq_none_iff.1 failed]
    rfl
  rename_i noQuote
  rw [if_neg noQuote]
  split at failed
  · cases failed
  rename_i noWord
  rw [if_neg noWord]
  split at failed
  · cases failed
  rename_i noMark
  rw [if_neg noMark]

/-- Returns in front of line feeds are white space between lexemes, or the end of a comment. -/
theorem lexemesOf_withReturns (text : List Char) :
    lexemesOf (withReturns text) = lexemesOf text := by
  induction text using Lexeme.induction with
  | nil => rfl
  | stop char rest failed =>
    rcases step?_withReturns_of_none failed with ⟨inLine, failedWide⟩
    rw [withReturns_cons inLine, lexemesOf_of_none failed, lexemesOf_of_none failedWide]
  | step step fits ih =>
    rw [withReturns_append, lexemesOf_of_fits fits, ← ih]
    cases fits with
    | @space run rest nonempty isRun ends =>
      refine lexemesOf_spaces (fun char mem => ?_) (withReturns rest)
      rcases mem_withReturns mem with memRun | rfl
      · exact isRun char memRun
      · decide
    | @comment inside rest inLine ends =>
      have oneLine : '\n' ∉ '/' :: '/' :: inside := by simpa using fun mem => inLine '\n' mem rfl
      rw [withReturns_of_not_mem oneLine]
      cases rest with
      | nil => exact lexemesOf_comment inLine (ends_nil _)
      | cons char more =>
        -- The return belongs to the comment.
        have isLine : char = '\n' := by simpa using ends
        subst isLine
        have longer := @lexemesOf_comment (inside ++ ['\r']) ('\n' :: withReturns more)
          (by simpa [or_imp, forall_and] using inLine) (by simp)
        rw [withReturns_line, lexemesOf_space (by decide)]
        simpa [Step.lexemes] using longer
    | @token kind lexeme rest form ends =>
      have oneLine : '\n' ∉ lexeme := by
        cases form with
        | @string quote inside isQuote unbroken =>
          have noLine : '\n' ≠ quote := by rcases isQuote with rfl | rfl <;> decide
          have inLine : '\n' ∉ inside := fun mem => (unbroken '\n' mem).2 rfl
          simp [noLine, inLine]
        | word nonempty isRun => exact not_mem_of_run isRun (by decide)
        | punctuation isMark =>
          rw [List.mem_singleton]
          rintro rfl
          cases isMark
      rw [withReturns_of_not_mem oneLine]
      exact lexemesOf_token form fun isWord => (ends isWord).withReturns (by decide)

end Strict

namespace Schema

/-- A carriage return in front of each line feed changes nothing that is read from a text, whether
it has returns already or not: by the strict grammar, in the dialects, or to detect the dialect.
Where enums have their members between commas, no member may go on in another line, since it is kept
as it is written. -/
theorem result_withReturns (text : List Char) :
    (Strict.parse? (String.ofList (withReturns text))).result =
    (Strict.parse? (String.ofList text)).result ∧
    Dialect.detect (withReturns text) = Dialect.detect text ∧
    Dbml.parse (withReturns text) = Dbml.parse text ∧
    (Shorthand.HasPlainMembers text → (Shorthand.parse (withReturns text)).result =
      (Shorthand.parse text).result) ∧
    (Sql.HasPlainMembers text → Sql.parse (withReturns text) = Sql.parse text) := by
  refine ⟨Strict.result_parse?_congr ?_, Dialect.detect_withReturns text,
    Dbml.parse_withReturns text,
    Shorthand.result_parse_withReturns, Sql.parse_withReturns⟩
  rw [String.toList_ofList, String.toList_ofList, Strict.lexemesOf_withReturns]

/-- A text of several lines in both kinds of notation, with enums whose members stand on lines of
their own. -/
def severalLines : List Char := "// moods
enum mood \x7b
  ok,
  'so so'
\x7d
Table users \x7b
  id mood [pk, ref: >
    users.id]
\x7d
CREATE TYPE size AS ENUM (
  'small',
  'large'
);
CREATE TABLE shirts (
  size size NOT
    NULL
);".toList

theorem result_withReturns_severalLines :
    Shorthand.HasPlainMembers severalLines ∧ Sql.HasPlainMembers severalLines ∧
    (Shorthand.parse (withReturns severalLines)).result = (Shorthand.parse severalLines).result ∧
    Sql.parse (withReturns severalLines) = Sql.parse severalLines := by
  have plain : Shorthand.HasPlainMembers severalLines := by decide +kernel
  have plainSql : Sql.HasPlainMembers severalLines := by decide +kernel
  have same := (result_withReturns severalLines).2.2.2
  exact ⟨plain, plainSql, same.1 plain, same.2 plainSql⟩

end Schema

end Schemagram
