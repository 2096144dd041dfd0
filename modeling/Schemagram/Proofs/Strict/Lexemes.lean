import Schemagram.Proofs.Scan.Forms
import Schemagram.Strict.Token

/-!
# Texts and their lexemes

A lexeme is a token without its place. `Lexeme.step?_eq_some` says what a single step reads: a run
of white space, a comment, or a text that has the form of a token; a run or a comment is never left
before its end.  From it follows what a text consists of, whatever its offset in a longer text is.

A text that consists of tokens may be cut behind each of them, and two such texts may be put
together with a line end between them: nothing but the tokens of both comes out.
-/

namespace Schemagram.Strict

open Text

/-- The kind and the text of a token, without its place. -/
def Token.lexeme (token : Token) : Token.Kind × String := (token.kind, token.text)

/-- The text of a word is a word. -/
theorem Token.isWord_text {token : Token} (isWordKind : token.kind = .word) :
    IsWord token.text.toList := by
  have form := token.form
  rw [isWordKind] at form
  generalize token.text.toList = text at form
  cases form with
  | word nonempty isRun => exact ⟨nonempty, isRun⟩

namespace Lexeme

/-! ### Single steps -/

/-- What a step may read before the rest of a text. -/
inductive Step.Fits : Step → Prop where
  | space {run rest : List Char} (nonempty : run ≠ []) (isRun : ∀ char ∈ run, isSpace char = true)
      (ends : Ends isSpace rest) : Fits ⟨none, run, rest⟩
  | comment {inside rest : List Char} (inLine : ∀ char ∈ inside, char ≠ '\n')
      (ends : Ends (· ≠ '\n') rest) : Fits ⟨none, '/' :: '/' :: inside, rest⟩
  | token {kind : Token.Kind} {lexeme rest : List Char} (form : Token.Form kind lexeme)
      (ends : kind = .word → Ends isWord rest) : Fits ⟨some kind, lexeme, rest⟩

theorem closeQuote?_of_unbroken {quote : Char} {inside : List Char}
    (unbroken : ∀ char ∈ inside, char ≠ quote ∧ char ≠ '\n') (rest : List Char) :
    closeQuote? quote (inside ++ quote :: rest) = some (inside ++ [quote], rest) := by
  induction inside with
  | nil => simp [closeQuote?]
  | cons char more ih =>
    rw [List.forall_mem_cons] at unbroken
    simp [closeQuote?, unbroken.1, ih unbroken.2]

theorem fits_of_step? {text : List Char} {step : Step} (read : step? text = some step) :
    step.Fits := by
  have form (kind : Token.Kind) (isKind : step.kind? = some kind) := form_of_step? read isKind
  cases text with
  | nil => simp [step?] at read
  | cons char rest =>
    simp only [step?] at read
    split at read
    · rename_i isSpaceChar
      cases read
      refine .space (by simp) ?_ (ends_dropWhile isSpace rest)
      rw [List.forall_mem_cons]
      exact ⟨isSpaceChar, List.all_eq_true.1 List.all_takeWhile⟩
    split at read
    · split at read
      · cases read
        refine .comment (fun char mem => ?_) (ends_dropWhile _ _)
        simpa using List.all_eq_true.1 List.all_takeWhile char mem
      · simp at read
    split at read
    · rcases Option.map_eq_some_iff.1 read with ⟨⟨inner, after⟩, _, rfl⟩
      exact .token (form .string rfl) (by simp)
    split at read
    · cases read
      exact .token (form .word rfl) fun _ => ends_dropWhile isWord rest
    split at read
    · cases read
      exact .token (form .punctuation rfl) (by simp)
    · simp at read

/-- No mark of punctuation begins another form. -/
theorem isPunctuation_alone {mark : Char} (isMark : isPunctuation mark = true) :
    isSpace mark = false ∧ mark ∉ ['/', '"', '\''] ∧ isWord mark = false := by
  have all : ∀ mark ∈ "\x7b\x7d[](),:.<>".toList,
      isSpace mark = false ∧ mark ∉ ['/', '"', '\''] ∧ isWord mark = false := by decide
  exact all mark (by simpa [isPunctuation] using isMark)

/-- No word begins like another form. -/
theorem isWord_alone {char : Char} (inWord : isWord char = true) :
    isSpace char = false ∧ char ∉ ['/', '"', '\''] := by
  refine ⟨not_isSpace_of_isWord inWord, ?_⟩
  intro mem
  have all : ∀ char ∈ ['/', '"', '\''], isWord char = false := by decide
  simp [all char mem] at inWord

theorem step?_of_fits {step : Step} (fits : step.Fits) :
    step? (step.lexeme ++ step.rest) = some step := by
  cases fits with
  | @space run rest nonempty isRun ends =>
    cases run with
    | nil => exact absurd rfl nonempty
    | cons char more =>
      rw [List.forall_mem_cons] at isRun
      simp [step?, isRun.1, takeWhile_run isRun.2 ends, dropWhile_run isRun.2 ends]
  | @comment inside rest inLine ends =>
    have isRun : ∀ char ∈ inside, decide (char ≠ '\n') = true := by simpa using inLine
    have noSpace : isSpace '/' = false := by decide
    simp only [List.cons_append, step?, noSpace, Bool.false_eq_true, if_false, if_true,
      takeWhile_run isRun ends, dropWhile_run isRun ends]
  | @token kind lexeme rest form ends =>
    cases form with
    | @string quote inside isQuote unbroken =>
      have noOther : isSpace quote = false ∧ quote ≠ '/' := by
        rcases isQuote with rfl | rfl <;> decide
      simp [step?, noOther, isQuote, closeQuote?_of_unbroken unbroken]
    | word nonempty isRun =>
      cases lexeme with
      | nil => exact absurd rfl nonempty
      | cons char more =>
        rw [List.forall_mem_cons] at isRun
        have alone := isWord_alone isRun.1
        simp only [List.mem_cons, List.not_mem_nil, or_false, not_or] at alone
        simp [step?, alone, isRun.1, takeWhile_run isRun.2 (ends rfl),
          dropWhile_run isRun.2 (ends rfl)]
    | punctuation isMark =>
      have alone := isPunctuation_alone isMark
      simp only [List.mem_cons, List.not_mem_nil, or_false, not_or] at alone
      simp [step?, alone, isMark]

/-- A step reads a form, and leaves what stands behind it. -/
theorem step?_eq_some {text : List Char} {step : Step} :
    step? text = some step ↔ text = step.lexeme ++ step.rest ∧ step.Fits := by
  constructor
  · intro read
    exact ⟨(step?_append read).symm, fits_of_step? read⟩
  · rintro ⟨rfl, fits⟩
    exact step?_of_fits fits

/-- A form that is read before a text is read before any beginning of it. -/
theorem Step.Fits.shorten {kind? : Option Token.Kind} {lexeme part rest : List Char}
    (fits : Step.Fits ⟨kind?, lexeme, part ++ rest⟩) : Step.Fits ⟨kind?, lexeme, part⟩ := by
  have shorten {isInside : Char → Bool} (ends : Ends isInside (part ++ rest)) :
      Ends isInside part := by
    cases part with
    | nil => exact ends_nil isInside
    | cons char more => exact ends
  cases fits with
  | space nonempty isRun ends => exact .space nonempty isRun (shorten ends)
  | comment inLine ends => exact .comment inLine (shorten ends)
  | token form ends => exact .token form fun isWord => shorten (ends isWord)

/-- A form is read in front of a line end, whatever stands behind that.  Only white space goes on
there. -/
theorem Step.Fits.lengthen {kind? : Option Token.Kind} {lexeme rest more : List Char}
    (fits : Step.Fits ⟨kind?, lexeme, rest⟩)
    (lineEnd : (∀ char ∈ (lexeme ++ rest).getLast?, char = '\n') ∨ more.head? = some '\n') :
    Step.Fits ⟨kind?, lexeme, rest ++ more⟩ ∨ kind? = none ∧ ∀ char ∈ lexeme,
    isSpace char = true := by
  -- Behind the last form of the text a line end is left, unless the form has it.
  have ends {isInside : Char → Bool} (ends : Ends isInside rest) (isOutside : isInside '\n' = false)
      (nonempty : lexeme ≠ []) (unbroken : '\n' ∉ lexeme) : Ends isInside (rest ++ more) := by
    cases rest with
    | cons char _ => exact ends
    | nil =>
      rcases lineEnd with last | next
      · rw [List.append_nil, List.getLast?_eq_some_getLast nonempty] at last
        rw [← last _ rfl] at unbroken
        exact absurd (List.getLast_mem nonempty) unbroken
      · simpa [Ends, next] using isOutside
  cases fits with
  | space nonempty isRun _ => exact .inr ⟨rfl, isRun⟩
  | comment inLine isEnd =>
    refine .inl (.comment inLine (ends isEnd (by decide) (by simp) ?_))
    simpa using fun mem => inLine _ mem rfl
  | token form isEnd =>
    refine .inl (.token form fun isWordKind => ?_)
    subst isWordKind
    cases form with
    | word nonempty isRun =>
      refine ends (isEnd rfl) (by decide) nonempty fun mem => ?_
      exact absurd (isRun _ mem) (by decide)

/-- A text is read step by step, up to its end or to a character that starts nothing. -/
@[elab_as_elim]
theorem induction {motive : List Char → Prop} (text : List Char) (nil : motive [])
    (stop : ∀ char rest, step? (char :: rest) = none → motive (char :: rest))
    (step : ∀ step : Step, step.Fits → motive step.rest → motive (step.lexeme ++ step.rest)) :
    motive text := by
  match text with
  | [] => exact nil
  | char :: rest =>
    match read : step? (char :: rest) with
    | none => exact stop char rest read
    | some found =>
      rcases step?_eq_some.1 read with ⟨whole, fits⟩
      rw [whole]
      exact step found fits (induction found.rest nil stop step)
termination_by text.length
decreasing_by exact length_rest_lt read

end Lexeme

/-! ### The tokens of a text, step by step -/

/-- The token that a step reads at an offset, if it reads one. -/
def Lexeme.Step.Fits.token? {step : Step} (fits : step.Fits) (position : Nat) : Option Token :=
  match isKind : step.kind? with
  | none => none
  | some kind => some {
      kind, position
      text := String.ofList step.lexeme
      form := by simpa using Lexeme.form_of_step? (Lexeme.step?_of_fits fits) isKind }

namespace Tokens

open Lexeme

/-- Tokens in front of those of the rest of a text. -/
def after (front : List Token) (more : Tokens) :
    Tokens := { more with tokens := front ++ more.tokens }

theorem after_after (first second : List Token) (more : Tokens) :
    (more.after second).after first = more.after (first ++ second) := by
  rw [after, after, after, List.append_assoc]

theorem ofCharsAt_nil (position : Nat) : ofCharsAt position [] = ⟨[], none⟩ := by rw [ofCharsAt]

theorem ofCharsAt_of_none (position : Nat) {char : Char} {rest : List Char}
    (failed : step? (char :: rest) = none) :
    ofCharsAt position (char :: rest) = ⟨[], some ⟨.unexpectedCharacter char, position⟩⟩ := by
  rw [ofCharsAt]
  split
  · rfl
  · simp_all

theorem ofCharsAt_of_fits (position : Nat) {step : Step} (fits : step.Fits) :
    ofCharsAt position (step.lexeme ++ step.rest) =
      (ofCharsAt (position + step.lexeme.length) step.rest).after
      (fits.token? position).toList := by
  have read := step?_of_fits fits
  generalize whole : step.lexeme ++ step.rest = text at read
  cases text with
  | nil => simp [step?] at read
  | cons char rest =>
    rw [ofCharsAt]
    split
    · simp_all
    · rename_i found readFound
      rw [read, Option.some.injEq] at readFound
      subst readFound
      rcases step with ⟨kind?, lexeme, rest⟩
      cases kind? <;> rfl

/-- A single white space character may be passed over, even if more of them follow. -/
theorem ofCharsAt_space (position : Nat) {char : Char} (space : isSpace char = true)
    (rest : List Char) :
    ofCharsAt position (char :: rest) = ofCharsAt (position + 1) rest := by
  have wholeRun (position : Nat) (run : List Char) (nonempty : run ≠ [])
      (isRun : ∀ char ∈ run, isSpace char = true) :
      ofCharsAt position (run ++ rest.dropWhile isSpace) =
        ofCharsAt (position + run.length) (rest.dropWhile isSpace) :=
    ofCharsAt_of_fits position (.space nonempty isRun (ends_dropWhile isSpace rest))
  have isRun : ∀ char ∈ rest.takeWhile isSpace, isSpace char = true :=
    List.all_eq_true.1 List.all_takeWhile
  have longer := wholeRun position (char :: rest.takeWhile isSpace) (by simp)
    (by simpa [space] using isRun)
  rw [List.cons_append, List.takeWhile_append_dropWhile] at longer
  rw [longer]
  by_cases noRun : rest.takeWhile isSpace = []
  · have whole := List.takeWhile_append_dropWhile (p := isSpace) (l := rest)
    rw [noRun, List.nil_append] at whole
    rw [noRun, whole]
    rfl
  · have shorter := wholeRun (position + 1) _ noRun isRun
    rw [List.takeWhile_append_dropWhile] at shorter
    rw [shorter, List.length_cons, Nat.add_assoc, Nat.add_comm 1]

theorem ofCharsAt_spaces (position : Nat) {run : List Char}
    (isRun : ∀ char ∈ run, isSpace char = true) (rest : List Char) :
    ofCharsAt position (run ++ rest) = ofCharsAt (position + run.length) rest := by
  induction run generalizing position with
  | nil => rfl
  | cons char more ih =>
    rw [List.forall_mem_cons] at isRun
    rw [List.cons_append, ofCharsAt_space position isRun.1, ih _ isRun.2, List.length_cons,
      Nat.add_assoc, Nat.add_comm 1]

/-- A text that is read to its end may be put in front of another one, if there is a line end
between them. -/
theorem ofCharsAt_append {position : Nat} {first : List Char}
    (tokenizes : (ofCharsAt position first).stopped? = none) {more : List Char}
    (lineEnd : (∀ char ∈ first.getLast?, char = '\n') ∨ more.head? = some '\n') :
    ofCharsAt position (first ++ more) =
      (ofCharsAt (position + first.length) more).after (ofCharsAt position first).tokens := by
  induction first using Lexeme.induction generalizing position with
  | nil =>
    rw [ofCharsAt_nil]
    rfl
  | stop char rest failed =>
    rw [ofCharsAt_of_none _ failed] at tokenizes
    cases tokenizes
  | step step fits ih =>
    rw [ofCharsAt_of_fits _ fits] at tokenizes ⊢
    have behind := ih tokenizes (lineEnd.imp_left fun ends char mem => ends char (by simp_all))
    rw [List.length_append, ← Nat.add_assoc, List.append_assoc]
    rcases step with ⟨kind?, lexeme, rest⟩
    rcases fits.lengthen lineEnd with longer | ⟨rfl, isRun⟩
    · rw [ofCharsAt_of_fits position longer, behind, after_after]
      rfl
    · rw [ofCharsAt_spaces position isRun, behind]
      rfl

end Tokens

/-! ### Whole texts -/

/-- The lexemes of a text, and what is wrong with the first character that starts none. -/
structure Lexemes where
  lexemes : List (Token.Kind × String)
  fault? : Option Mismatch.Cause
  deriving DecidableEq

/-- Lexemes in front of others. -/
def Lexemes.after (front : List (Token.Kind × String)) (more : Lexemes) : Lexemes :=
  { more with lexemes := front ++ more.lexemes }

namespace Lexemes

@[simp]
theorem after_nil (more : Lexemes) : more.after [] = more := rfl

theorem after_eq_iff {front lexemes : List (Token.Kind × String)} {fault? : Option Mismatch.Cause}
    {more : Lexemes} : more.after front = ⟨lexemes, fault?⟩ ↔
      ∃ others, more = ⟨others, fault?⟩ ∧ lexemes = front ++ others := by
  rcases more with ⟨others, otherFault?⟩
  simp only [after, mk.injEq]
  constructor
  · rintro ⟨rfl, rfl⟩
    exact ⟨others, ⟨rfl, rfl⟩, rfl⟩
  · rintro ⟨_, ⟨rfl, rfl⟩, rfl⟩
    exact ⟨rfl, rfl⟩

end Lexemes

/-- The lexeme that a step reads, if it reads one. -/
def Lexeme.Step.lexemes (step : Step) : List (Token.Kind × String) :=
  step.kind?.toList.map (·, String.ofList step.lexeme)

namespace Tokens

open Lexeme

/-- Tokens without their places. -/
def unplaced (read : Tokens) : Lexemes :=
  ⟨read.tokens.map Token.lexeme, read.stopped?.map Mismatch.cause⟩

theorem unplaced_after (front : List Token) (more : Tokens) :
    (more.after front).unplaced = more.unplaced.after (front.map Token.lexeme) := by
  simp [unplaced, after, Lexemes.after]

theorem unplaced_of_fits (position : Nat) {step : Step} (fits : step.Fits) :
    (ofCharsAt position (step.lexeme ++ step.rest)).unplaced =
      (ofCharsAt (position + step.lexeme.length) step.rest).unplaced.after step.lexemes := by
  have sameLexemes : (fits.token? position).toList.map Token.lexeme = step.lexemes := by
    rcases step with ⟨kind?, lexeme, rest⟩
    cases kind? <;> rfl
  rw [ofCharsAt_of_fits position fits, unplaced_after, sameLexemes]

end Tokens

/-- The lexemes of a text. -/
def lexemesOf (text : List Char) : Lexemes := (Tokens.ofCharsAt 0 text).unplaced

open Lexeme

/-- The offset at which a text starts does not matter for its lexemes. -/
theorem Tokens.unplaced_ofCharsAt (position : Nat) (text : List Char) :
    (ofCharsAt position text).unplaced = lexemesOf text := by
  suffices same : ∀ other, (ofCharsAt position text).unplaced = (ofCharsAt other text).unplaced from
    same 0
  induction text using Lexeme.induction generalizing position with
  | nil => simp [ofCharsAt_nil]
  | stop char rest failed => simp [ofCharsAt_of_none _ failed, unplaced]
  | step step fits ih =>
    intro other
    rw [unplaced_of_fits _ fits, unplaced_of_fits _ fits]
    exact congrArg _ (ih _ _)

theorem lexemesOf_nil : lexemesOf [] = ⟨[], none⟩ := by
  rw [lexemesOf, Tokens.ofCharsAt_nil]
  rfl

theorem lexemesOf_of_none {char : Char} {rest : List Char} (failed : step? (char :: rest) = none) :
    lexemesOf (char :: rest) = ⟨[], some (.unexpectedCharacter char)⟩ := by
  rw [lexemesOf, Tokens.ofCharsAt_of_none 0 failed]
  rfl

theorem lexemesOf_of_fits {step : Step} (fits : step.Fits) :
    lexemesOf (step.lexeme ++ step.rest) = (lexemesOf step.rest).after step.lexemes := by
  rw [lexemesOf, Tokens.unplaced_of_fits 0 fits, Tokens.unplaced_ofCharsAt]

theorem lexemesOf_token {kind : Token.Kind} {lexeme rest : List Char}
    (form : Token.Form kind lexeme) (ends : kind = .word → Ends isWord rest) :
    lexemesOf (lexeme ++ rest) = (lexemesOf rest).after [(kind, String.ofList lexeme)] :=
  lexemesOf_of_fits (.token form ends)

theorem lexemesOf_space {char : Char} (space : isSpace char = true) (rest : List Char) :
    lexemesOf (char :: rest) = lexemesOf rest := by
  rw [lexemesOf, Tokens.ofCharsAt_space 0 space, Tokens.unplaced_ofCharsAt]

theorem lexemesOf_spaces {run : List Char} (isRun : ∀ char ∈ run, isSpace char = true)
    (rest : List Char) : lexemesOf (run ++ rest) = lexemesOf rest := by
  rw [lexemesOf, Tokens.ofCharsAt_spaces 0 isRun, Tokens.unplaced_ofCharsAt]

theorem lexemesOf_comment {inside rest : List Char} (inLine : ∀ char ∈ inside, char ≠ '\n')
    (ends : Ends (· ≠ '\n') rest) : lexemesOf ('/' :: '/' :: inside ++ rest) = lexemesOf rest :=
  lexemesOf_of_fits (.comment inLine ends)

/-- A line end ends whatever stands before it. -/
theorem lexemesOf_append_line {first : List Char} {lexemes : List (Token.Kind × String)}
    (read : lexemesOf first = ⟨lexemes, none⟩) (rest : List Char) :
    lexemesOf (first ++ '\n' :: rest) = (lexemesOf rest).after lexemes := by
  rw [lexemesOf, Tokens.unplaced, Lexemes.mk.injEq, Option.map_eq_none_iff] at read
  rw [lexemesOf, Tokens.ofCharsAt_append read.2 (.inr rfl), Tokens.unplaced_after,
    Tokens.unplaced_ofCharsAt, lexemesOf_space (by decide), read.1]

/-- A text may be cut behind each of its tokens. -/
theorem exists_cut {text : List Char} {first second : List (Token.Kind × String)}
    (read : lexemesOf text = ⟨first ++ second, none⟩) : ∃ part rest, text = part ++ rest ∧
      lexemesOf part = ⟨first, none⟩ ∧ lexemesOf rest = ⟨second, none⟩ := by
  induction text using Lexeme.induction generalizing first with
  | nil =>
    rw [lexemesOf_nil, Lexemes.mk.injEq, List.nil_eq, List.append_eq_nil_iff] at read
    rcases read with ⟨⟨rfl, rfl⟩, _⟩
    exact ⟨[], [], rfl, lexemesOf_nil, lexemesOf_nil⟩
  | stop char more failed =>
    simp [lexemesOf_of_none failed] at read
  | step step fits ih =>
    rcases step with ⟨kind?, lexeme, rest⟩
    cases first with
    | nil => exact ⟨[], lexeme ++ rest, rfl, lexemesOf_nil, read⟩
    | cons token more =>
      rw [lexemesOf_of_fits fits] at read
      rcases Lexemes.after_eq_iff.1 read with ⟨others, readMore, same⟩
      -- A step reads the first token, or none at all.
      have exists_front : ∃ front, token :: more = Step.lexemes ⟨kind?, lexeme, rest⟩ ++ front ∧
          others = front ++ second := by
        cases kind? with
        | none => exact ⟨token :: more, rfl, same.symm⟩
        | some kind =>
          rcases List.cons.inj same with ⟨rfl, sameMore⟩
          exact ⟨more, rfl, sameMore.symm⟩
      rcases exists_front with ⟨front, isFront, rfl⟩
      rcases ih readMore with ⟨part, left, rfl, readPart, readLeft⟩
      refine ⟨lexeme ++ part, left, by simp, ?_, readLeft⟩
      rw [isFront, lexemesOf_of_fits fits.shorten, readPart]
      rfl

end Schemagram.Strict
