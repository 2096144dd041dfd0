import Schemagram.Proofs.Strict.Layout

/-!
# Tokens cover their text

The tokens of a text stand in it one behind the other, each at its offset, with nothing but white
space and comments around them.  No word is cut, and every string is closed on its line.

Reading goes on from one place to the next by the longest element that starts there, be it white
space, a comment or a token.  It stops early exactly at a place where nothing starts; what was read
before is what is read of the text cut off there.  A text that has been read to its end and ends in
a line feed is read the same in front of any other text.
-/

namespace Schemagram.Strict

open Text Computability

/-! ### What is said of tokens -/

/-- The offset behind a token. -/
def Token.finish (token : Token) : Nat := token.position + token.text.length

/-- The offset up to which a text has been read. -/
def Tokens.finish (read : Tokens) (text : List Char) : Nat :=
  (read.stopped?.map Mismatch.position).getD text.length

/-- White space and comments in front of the rest of a text.  Every comment goes on to the end of
its line, be it inside of them or behind. -/
def Layout.IsGapBefore (rest text : List Char) : Prop :=
  text ∈ gap ∨ text ∈ gap * comment ∧ Ends (· ≠ '\n') rest

/-- The stretches between tokens, before the first one and behind the last one. -/
def gaps (start finish : Nat) : List Token → List (Nat × Nat)
  | [] => [(start, finish)]
  | token :: more => (start, token.position) :: gaps token.finish finish more

/-- A stretch of a text with all of its characters in a class, and none of the class next to it. -/
structure IsMaximalRun (isInside : Char → Bool) (text : List Char) (start finish : Nat) : Prop where
  inside : ∀ char ∈ text.extract start finish, isInside char = true
  before : Ends isInside (text.take start).reverse
  behind : Ends isInside (text.drop finish)

/-- A text between two equal quotes, on one line and without that quote inside. -/
def IsQuotedOnLine (text : List Char) : Prop :=
  ∃ quote inside, (quote = '"' ∨ quote = '\'') ∧ text = quote :: (inside ++ [quote]) ∧
    quote ∉ inside ∧ '\n' ∉ inside

/-- Tokens cover a text from one offset to another. -/
structure Covers (text : List Char) (start finish : Nat) (tokens : List Token) : Prop where
  rising : tokens.Pairwise fun first second =>
    first.position < second.position ∧ first.finish ≤ second.position
  inside : ∀ token ∈ tokens, start ≤ token.position ∧ token.finish ≤ finish
  slices : ∀ token ∈ tokens, text.extract token.position token.finish = token.text.toList
  gaps : ∀ gap ∈ gaps start finish tokens,
    gap.1 ≤ gap.2 ∧ Layout.IsGapBefore (text.drop gap.2) (text.extract gap.1 gap.2)
  words : ∀ token ∈ tokens, token.kind = .word →
    IsMaximalRun isWord text token.position token.finish
  strings : ∀ token ∈ tokens, token.kind = .string → IsQuotedOnLine token.text.toList

/-- What a text is made of: white space, comments and tokens. -/
inductive IsElement : List Char → Prop where
  | space {text : List Char} (nonempty : text ≠ []) (isRun : ∀ char ∈ text, isSpace char = true) :
    IsElement text
  | comment {text : List Char} (isComment : text ∈ Layout.comment) : IsElement text
  | token {kind : Token.Kind} {text : List Char} (form : Token.Form kind text) : IsElement text

/-- Some element starts a text. -/
def StartsElement (text : List Char) : Prop := ∃ element, IsElement element ∧ element <+: text

/-- An element starts a text, and no longer one does. -/
structure IsLongest (element text : List Char) : Prop where
  isElement : IsElement element
  starts : element <+: text
  longest : ∀ other, IsElement other → other <+: text → other.length ≤ element.length

/-- The offsets that are reached from the beginning of a text by longest elements. -/
inductive Reached (text : List Char) : Nat → Prop where
  | start : Reached text 0
  | next {position : Nat} {element : List Char} (reached : Reached text position)
      (longest : IsLongest element (text.drop position)) : Reached text (position + element.length)

/-- An offset that is reached and at which nothing starts, though the text goes on. -/
structure IsFault (text : List Char) (position : Nat) : Prop where
  inside : position < text.length
  reached : Reached text position
  nothing : ¬StartsElement (text.drop position)

/-- A token of a text behind another text of some length. -/
def Token.shifted (distance : Nat) (token : Token) : Token :=
  { token with position := distance + token.position }

def Mismatch.shifted (distance : Nat) (mismatch : Mismatch) : Mismatch :=
  { mismatch with position := distance + mismatch.position }

def Tokens.shifted (distance : Nat) (read : Tokens) : Tokens :=
  ⟨read.tokens.map (Token.shifted distance), read.stopped?.map (Mismatch.shifted distance)⟩

/-! ### Elements -/

namespace Lexeme

variable {text rest : List Char} {step : Step}

theorem Step.Fits.isElement (fits : step.Fits) : IsElement step.lexeme := by
  cases fits with
  | space nonempty isRun _ => exact .space nonempty isRun
  | comment inLine _ => exact .comment ⟨_, inLine, rfl⟩
  | token form _ => exact .token form

theorem Step.Fits.lexeme_ne_nil (fits : step.Fits) : step.lexeme ≠ [] :=
  step?_ne_nil (step?_of_fits fits)

/-- An element that starts a text is the beginning of what a step reads there. -/
theorem exists_fits_of_isElement (isElement : IsElement text) (rest : List Char) :
    ∃ step : Step, step.Fits ∧ step.lexeme ++ step.rest = text ++ rest ∧ text <+: step.lexeme := by
  -- A run goes on as far as the characters behind it allow; nothing else can be continued.
  have extend (isInside : Char → Bool) (isRun : ∀ char ∈ text, isInside char = true) :
      (∀ char ∈ text ++ rest.takeWhile isInside, isInside char = true) ∧
        text ++ rest.takeWhile isInside ++ rest.dropWhile isInside = text ++ rest := by
    refine ⟨List.forall_mem_append.2 ⟨isRun, List.all_eq_true.1 List.all_takeWhile⟩, ?_⟩
    rw [List.append_assoc, List.takeWhile_append_dropWhile]
  cases isElement with
  | space nonempty isRun =>
    exact ⟨⟨none, text ++ rest.takeWhile isSpace, rest.dropWhile isSpace⟩,
      .space (by simp [nonempty]) (extend isSpace isRun).1 (ends_dropWhile isSpace rest),
      (extend isSpace isRun).2, List.prefix_append _ _⟩
  | comment isComment =>
    rcases isComment with ⟨inside, inLine, rfl⟩
    refine ⟨⟨none, '/' :: '/' :: (inside ++ rest.takeWhile (· ≠ '\n')), rest.dropWhile (· ≠ '\n')⟩,
      .comment ?_ (ends_dropWhile _ rest), ?_, ?_⟩
    · rw [List.forall_mem_append]
      refine ⟨inLine, ?_⟩
      simpa using List.all_eq_true.1 (List.all_takeWhile (p := (· ≠ '\n')) (l := rest))
    · simp
    · simp
  | @token kind _ form =>
    by_cases isWordKind : kind = .word
    · subst isWordKind
      cases form with
      | word nonempty isRun =>
        exact ⟨⟨some .word, text ++ rest.takeWhile isWord, rest.dropWhile isWord⟩,
          .token (.word (by simp [nonempty]) (extend isWord isRun).1) fun _ =>
            ends_dropWhile isWord rest,
          (extend isWord isRun).2, List.prefix_append _ _⟩
    · exact ⟨⟨some kind, text, rest⟩, .token form fun isWord => absurd isWord isWordKind, rfl,
        List.prefix_rfl⟩

/-- A step fails exactly where no element starts. -/
theorem step?_eq_none : step? text = none ↔ ¬StartsElement text := by
  constructor
  · rintro failed ⟨element, isElement, rest, rfl⟩
    rcases exists_fits_of_isElement isElement rest with ⟨step, fits, whole, _⟩
    rw [← whole, step?_of_fits fits] at failed
    cases failed
  · intro nothing
    rw [Option.eq_none_iff_forall_ne_some]
    intro step read
    rcases step?_eq_some.1 read with ⟨rfl, fits⟩
    exact nothing ⟨step.lexeme, fits.isElement, List.prefix_append _ _⟩

/-- A step reads the longest element that starts a text. -/
theorem isLongest_iff {element : List Char} :
    IsLongest element text ↔ ∃ step, step? text = some step ∧ step.lexeme = element := by
  constructor
  · rintro ⟨isElement, ⟨rest, rfl⟩, longest⟩
    rcases exists_fits_of_isElement isElement rest with ⟨step, fits, whole, isBeginning⟩
    refine ⟨step, step?_eq_some.2 ⟨whole.symm, fits⟩, (isBeginning.eq_of_length_le ?_).symm⟩
    apply longest step.lexeme fits.isElement
    exact ⟨step.rest, whole⟩
  · rintro ⟨step, read, rfl⟩
    rcases step?_eq_some.1 read with ⟨rfl, fits⟩
    refine ⟨fits.isElement, List.prefix_append _ _, ?_⟩
    rintro other isElement ⟨rest, whole⟩
    rcases exists_fits_of_isElement isElement rest with ⟨found, foundFits, foundWhole, isBeginning⟩
    -- Only one step is read, so that the other element begins what it reads.
    have same : some found = some step := by
      rw [← step?_of_fits foundFits, foundWhole, whole, read]
    cases same
    exact isBeginning.length_le

/-- Where one step ends, no word goes on. -/
theorem Step.Fits.apart (fits : step.Fits) :
    Ends isWord step.rest ∨ Ends isWord step.lexeme.reverse := by
  cases fits with
  | @space run rest nonempty isRun ends =>
    right
    intro char mem
    apply Writing.isWord_of_isSpace
    apply isRun
    exact List.mem_reverse.1 (List.mem_of_mem_head? mem)
  | @comment inside rest inLine ends =>
    left
    cases rest with
    | nil => exact ends_nil isWord
    | cons char more =>
      have isLineEnd : char = '\n' := by simpa using ends
      rw [ends_cons, isLineEnd]
      decide
  | @token kind lexeme rest form ends =>
    cases form with
    | @string quote inside isQuote unbroken =>
      right
      simp only [List.reverse_cons, List.reverse_append, List.reverse_nil, List.nil_append,
        List.cons_append, ends_cons]
      rcases isQuote with rfl | rfl <;> decide
    | word nonempty isRun => exact .inl (ends rfl)
    | punctuation isMark => exact .inr (ends_cons.2 (isPunctuation_alone isMark).2.2)

end Lexeme

/-! ### Covering -/

namespace Layout

variable {text lexeme rest : List Char}

theorem isGapBefore_nil (rest : List Char) : IsGapBefore rest [] := .inl (Language.nil_mem_kstar _)

/-- White space or a comment may be passed over as well. -/
theorem IsGapBefore.append (isGap : IsGapBefore (lexeme ++ rest) text)
    (fits : Lexeme.Step.Fits ⟨none, lexeme, rest⟩) :
    IsGapBefore rest (text ++ lexeme) := by
  cases fits with
  | space nonempty isRun _ =>
    rcases isGap with isGap | ⟨unended, lineEnd⟩
    · exact .inl (mem_gap_append isGap (mem_gap_of_spaces isRun))
    · -- The run begins with the line end of the comment.
      rcases Language.mem_mul.1 unended with ⟨before, isBefore, _, ⟨inside, inLine, rfl⟩, rfl⟩
      cases lexeme with
      | nil => exact absurd rfl nonempty
      | cons char more =>
        have isLineEnd : char = '\n' := by simpa using lineEnd
        rw [List.forall_mem_cons, isLineEnd] at isRun
        have ended := mem_gap_append (mem_gap_append isBefore (mem_gap_comment inLine))
          (mem_gap_of_spaces isRun.2)
        rw [isLineEnd]
        exact .inl (by simpa using ended)
  | @comment inside _ inLine ends =>
    rcases isGap with isGap | ⟨_, lineEnd⟩
    · exact .inr ⟨Language.append_mem_mul isGap ⟨inside, inLine, rfl⟩, ends⟩
    · exact absurd lineEnd (by simp)

end Layout

theorem Token.Form.ne_nil {kind : Token.Kind} {text : List Char} (form : Token.Form kind text) :
    text ≠ [] := by
  cases form with
  | string isQuote unbroken => simp
  | word nonempty isRun => exact nonempty
  | punctuation isMark => simp

theorem Token.position_lt_finish (token : Token) : token.position < token.finish := by
  have nonempty := List.length_pos_iff.2 token.form.ne_nil
  rw [String.length_toList] at nonempty
  rw [Token.finish]
  omega

theorem Token.isQuotedOnLine {token : Token} (isString : token.kind = .string) :
    IsQuotedOnLine token.text.toList := by
  have form := token.form
  rw [isString] at form
  generalize token.text.toList = text at form
  cases form with
  | @string quote inside isQuote unbroken =>
    exact ⟨quote, inside, isQuote, rfl, fun mem => (unbroken _ mem).1 rfl,
      fun mem => (unbroken _ mem).2 rfl⟩

namespace Covers

variable {text : List Char} {start finish : Nat} {token : Token} {more : List Token}

/-- A stretch without tokens is covered if it is a gap. -/
theorem nil (inOrder : start ≤ finish)
    (isGap : Layout.IsGapBefore (text.drop finish) (text.extract start finish)) :
    Covers text start finish [] where
  rising := .nil
  inside := by simp
  slices := by simp
  gaps := by simpa [Strict.gaps] using ⟨inOrder, isGap⟩
  words := by simp
  strings := by simp

theorem start_le_finish {tokens : List Token} (covers : Covers text start finish tokens) :
    start ≤ finish := by
  cases tokens with
  | nil => exact (covers.gaps (start, finish) List.mem_cons_self).1
  | cons token more =>
    have isInside := covers.inside token List.mem_cons_self
    have nonempty := token.position_lt_finish
    omega

/-- A token covers what it is a slice of, in front of tokens that cover what is behind it. -/
theorem cons (inOrder : start ≤ token.position)
    (isGap : Layout.IsGapBefore (text.drop token.position) (text.extract start token.position))
    (slice : text.extract token.position token.finish = token.text.toList)
    (before : token.kind = .word → Ends isWord (text.take token.position).reverse)
    (behind : token.kind = .word → Ends isWord (text.drop token.finish))
    (covers : Covers text token.finish finish more) : Covers text start finish (token :: more) := by
  have nonempty := token.position_lt_finish
  have beforeFinish := covers.start_le_finish
  refine ⟨?_, ?_, ?_, ?_, ?_, ?_⟩
  · refine List.pairwise_cons.2 ⟨fun second mem => ?_, covers.rising⟩
    have := (covers.inside second mem).1
    exact ⟨by omega, this⟩
  · refine List.forall_mem_cons.2 ⟨⟨inOrder, beforeFinish⟩, fun second mem => ?_⟩
    have := covers.inside second mem
    exact ⟨by omega, this.2⟩
  · exact List.forall_mem_cons.2 ⟨slice, covers.slices⟩
  · exact List.forall_mem_cons.2 ⟨⟨inOrder, isGap⟩, covers.gaps⟩
  · refine List.forall_mem_cons.2 ⟨fun isWordKind => ⟨?_, before isWordKind, behind isWordKind⟩,
      covers.words⟩
    rw [slice]
    exact (Token.isWord_text isWordKind).2
  · exact List.forall_mem_cons.2 ⟨Token.isQuotedOnLine, covers.strings⟩

end Covers

namespace Tokens

open Lexeme

theorem finish_of_stopped {read : Tokens} {text : List Char} {mismatch : Mismatch}
    (stopped : read.stopped? = some mismatch) : read.finish text = mismatch.position := by
  rw [finish, stopped]
  rfl

theorem finish_of_tokenizes {read : Tokens} {text : List Char} (tokenizes : read.stopped? = none) :
    read.finish text = text.length := by
  rw [finish, tokenizes]
  rfl

theorem finish_after (front : List Token) (more : Tokens) (text : List Char) :
    (more.after front).finish text = more.finish text := rfl

/-- What is read behind some characters covers them from where the last token ends, if nothing but
white space and comments is left there, and if no word goes on. -/
theorem covers_ofCharsAt {before text : List Char} {start : Nat} (inOrder : start ≤ before.length)
    (isGap : Layout.IsGapBefore text (before.drop start))
    (apart : Ends isWord text ∨ Ends isWord before.reverse) :
    Covers (before ++ text) start ((ofCharsAt before.length text).finish (before ++ text))
      (ofCharsAt before.length text).tokens := by
  induction text using Lexeme.induction generalizing before start with
  | nil =>
    rw [ofCharsAt_nil, finish_of_tokenizes rfl, List.append_nil]
    refine .nil inOrder ?_
    rwa [List.extract, ← List.length_drop, List.take_length, List.drop_length]
  | stop char rest failed =>
    rw [ofCharsAt_of_none _ failed, finish_of_stopped rfl]
    refine .nil inOrder ?_
    rwa [List.extract, List.drop_append_of_le_length inOrder, ← List.length_drop, List.take_left,
      List.drop_left]
  | step step fits ih =>
    rw [ofCharsAt_of_fits _ fits, finish_after, ← List.append_assoc, ← List.length_append]
    have apartBehind : Ends isWord step.rest ∨ Ends isWord (before ++ step.lexeme).reverse := by
      rw [List.reverse_append]
      exact fits.apart.imp_right fun ends =>
        Writing.ends_append ends (by simpa using fits.lexeme_ne_nil)
    rcases step with ⟨kind?, lexeme, rest⟩
    cases kind? with
    | none =>
      refine ih (inOrder.trans (by simp)) ?_ apartBehind
      rw [List.drop_append_of_le_length inOrder]
      exact isGap.append fits
    | some kind =>
      have covers := ih (Nat.le_refl (before ++ lexeme).length)
        (by simpa using Layout.isGapBefore_nil _) apartBehind
      have isFinish : before.length + (String.ofList lexeme).length =
          (before ++ lexeme).length := by
        rw [String.length_ofList, List.length_append]
      refine .cons inOrder ?_ ?_ ?_ ?_ (by rwa [Token.finish, isFinish])
      · rwa [List.extract, List.append_assoc, List.drop_append_of_le_length inOrder,
          ← List.length_drop,
          List.take_left, List.drop_left]
      · rw [Token.finish, List.extract, Nat.add_sub_cancel_left, List.append_assoc, List.drop_left,
          String.length_ofList, List.take_left, String.toList_ofList]
      · rintro ⟨⟩
        rw [List.append_assoc, List.take_left]
        refine apart.resolve_left fun ends => ?_
        cases fits with
        | token form behind =>
          cases form with
          | word nonempty isRun =>
            cases lexeme with
            | nil => exact nonempty rfl
            | cons char more => simp [isRun char] at ends
      · rintro ⟨⟩
        rw [Token.finish, isFinish, List.drop_left]
        cases fits with
        | token form behind => exact behind rfl

/-! ### Where reading stops -/

/-- A text is read up to a place where nothing starts, and what is read is read of the text in front
of it. -/
theorem exists_covered (position : Nat) (text : List Char) :
    ∃ covered rest, text = covered ++ rest ∧
    ofCharsAt position covered = ⟨(ofCharsAt position text).tokens, none⟩ ∧ ¬StartsElement rest ∧
    (ofCharsAt position text).stopped? =
      rest.head?.map fun char => ⟨.unexpectedCharacter char, position + covered.length⟩ := by
  induction text using Lexeme.induction generalizing position with
  | nil =>
    exact ⟨[], [], rfl, by simp [ofCharsAt_nil], step?_eq_none.1 rfl, by simp [ofCharsAt_nil]⟩
  | stop char rest failed =>
    refine ⟨[], char :: rest, rfl, ?_, step?_eq_none.1 failed, ?_⟩
    · simp [ofCharsAt_nil, ofCharsAt_of_none _ failed]
    · simp [ofCharsAt_of_none _ failed]
  | step step fits ih =>
    rcases step with ⟨kind?, lexeme, text⟩
    rcases ih (position + lexeme.length) with ⟨covered, rest, whole, read, nothing, stopped⟩
    refine ⟨lexeme ++ covered, rest, by rw [List.append_assoc, ← whole], ?_, nothing, ?_⟩
    · subst whole
      rw [ofCharsAt_of_fits position fits, ofCharsAt_of_fits position fits.shorten, read]
      rfl
    · rw [ofCharsAt_of_fits position fits, List.length_append, ← Nat.add_assoc]
      exact stopped

/-- The place where reading stops is reached from wherever it starts. -/
theorem reached_finish {before text : List Char}
    (reached : Reached (before ++ text) before.length) :
    Reached (before ++ text) ((ofCharsAt before.length text).finish (before ++ text)) := by
  induction text using Lexeme.induction generalizing before with
  | nil =>
    rw [ofCharsAt_nil, finish_of_tokenizes rfl]
    simpa using reached
  | stop char rest failed =>
    rw [ofCharsAt_of_none _ failed, finish_of_stopped rfl]
    exact reached
  | step step fits ih =>
    rw [ofCharsAt_of_fits _ fits, finish_after, ← List.length_append, ← List.append_assoc]
    apply ih
    rw [List.append_assoc, List.length_append]
    refine reached.next (isLongest_iff.2 ⟨step, ?_, rfl⟩)
    rw [List.drop_left]
    exact step?_of_fits fits

/-- From every place that is reached, reading goes on to the same end. -/
theorem stopped?_of_reached {text : List Char} {position : Nat} (reached : Reached text position) :
    position ≤ text.length ∧
      (ofCharsAt position (text.drop position)).stopped? = (ofCharsAt 0 text).stopped? := by
  induction reached with
  | start => exact ⟨Nat.zero_le _, rfl⟩
  | @next position element _ longest ih =>
    rcases isLongest_iff.1 longest with ⟨step, read, rfl⟩
    rcases step?_eq_some.1 read with ⟨whole, fits⟩
    have isRest : text.drop (position + step.lexeme.length) = step.rest := by
      rw [← List.drop_drop, whole, List.drop_left]
    have length := congrArg List.length whole
    rw [List.length_drop, List.length_append] at length
    refine ⟨by omega, ?_⟩
    rw [isRest, ← ih.2, whole, ofCharsAt_of_fits position fits]
    rfl

/-- Reading stops at a fault, and at nothing else. -/
theorem stopped?_eq_some {text : List Char} {mismatch : Mismatch} :
    (ofCharsAt 0 text).stopped? = some mismatch ↔ IsFault text mismatch.position ∧
      text[mismatch.position]?.map .unexpectedCharacter = some mismatch.cause := by
  constructor
  · intro isStopped
    have reached : Reached text ((ofCharsAt 0 text).finish text) := @reached_finish [] text .start
    rw [finish_of_stopped isStopped] at reached
    rcases exists_covered 0 text with ⟨covered, rest, rfl, _, nothing, stopped⟩
    rw [stopped, Option.map_eq_some_iff] at isStopped
    rcases isStopped with ⟨char, isHead, rfl⟩
    rw [Nat.zero_add] at reached ⊢
    rcases List.head?_eq_some_iff.1 isHead with ⟨more, rfl⟩
    refine ⟨⟨by simp, reached, ?_⟩, by simp⟩
    rwa [List.drop_left]
  · rintro ⟨⟨inside, reached, nothing⟩, isCause⟩
    rw [List.getElem?_eq_getElem inside, Option.map_some, Option.some.injEq] at isCause
    rw [← (stopped?_of_reached reached).2]
    rw [List.drop_eq_getElem_cons inside] at nothing ⊢
    rw [ofCharsAt_of_none _ (step?_eq_none.2 nothing), isCause]

/-- The place where reading stops is the only fault. -/
theorem exists_stopped_of_isFault {text : List Char} {position : Nat}
    (isFault : IsFault text position) :
    ∃ mismatch, (ofCharsAt 0 text).stopped? = some mismatch ∧ mismatch.position = position := by
  have inside := isFault.inside
  refine ⟨⟨.unexpectedCharacter text[position], position⟩, stopped?_eq_some.2 ⟨isFault, ?_⟩, rfl⟩
  rw [List.getElem?_eq_getElem inside, Option.map_some]

/-- What is read up to a fault is read of the text in front of it. -/
theorem ofCharsAt_take {text : List Char} {mismatch : Mismatch}
    (isStopped : (ofCharsAt 0 text).stopped? = some mismatch) :
    ofCharsAt 0 (text.take mismatch.position) = ⟨(ofCharsAt 0 text).tokens, none⟩ := by
  rcases exists_covered 0 text with ⟨covered, rest, rfl, read, _, stopped⟩
  rw [stopped, Option.map_eq_some_iff] at isStopped
  rcases isStopped with ⟨char, _, rfl⟩
  rw [Nat.zero_add, List.take_left, read]

/-! ### Texts one behind the other -/

/-- A text is read the same wherever it starts, but for the offsets. -/
theorem ofCharsAt_add (distance position : Nat) (text : List Char) :
    ofCharsAt (distance + position) text = (ofCharsAt position text).shifted distance := by
  induction text using Lexeme.induction generalizing position with
  | nil =>
    rw [ofCharsAt_nil, ofCharsAt_nil]
    rfl
  | stop char rest failed =>
    rw [ofCharsAt_of_none _ failed, ofCharsAt_of_none _ failed]
    rfl
  | step step fits ih =>
    have sameToken : (fits.token? (distance + position)).toList =
        (fits.token? position).toList.map (Token.shifted distance) := by
      rcases step with ⟨kind?, lexeme, rest⟩
      cases kind? <;> rfl
    rw [ofCharsAt_of_fits _ fits, ofCharsAt_of_fits _ fits, Nat.add_assoc, ih, sameToken, after,
      shifted, shifted, after, List.map_append]

end Tokens

/-- The tokens of a text cover it up to the place where reading stops, and that is its first fault.
A text that has none and ends in a line feed is read by itself in front of any other. -/
theorem tokens_cover (text : String) :
    Covers text.toList 0 ((Tokens.ofString text).finish text.toList) (Tokens.ofString text).tokens ∧
      ((Tokens.ofString text).stopped? ≠ none ↔ ∃ position, IsFault text.toList position) ∧
      (∀ mismatch, (Tokens.ofString text).stopped? = some mismatch →
        IsFault text.toList mismatch.position ∧
          (∀ position, IsFault text.toList position → mismatch.position ≤ position) ∧
          text.toList[mismatch.position]?.map .unexpectedCharacter = some mismatch.cause ∧
          Tokens.ofString (String.ofList (text.toList.take mismatch.position)) =
            ⟨(Tokens.ofString text).tokens, none⟩) ∧
      ∀ more, (Tokens.ofString text).stopped? = none → text.toList.getLast? = some '\n' →
        Tokens.ofString (text ++ more) =
          ((Tokens.ofString more).shifted text.length).after (Tokens.ofString text).tokens := by
  refine ⟨?_, ?_, ?_, ?_⟩
  · exact @Tokens.covers_ofCharsAt [] text.toList 0 (Nat.le_refl 0) (Layout.isGapBefore_nil _)
      (.inr (ends_nil isWord))
  · constructor
    · intro fails
      rcases Option.ne_none_iff_exists'.1 fails with ⟨mismatch, stopped⟩
      exact ⟨mismatch.position, (Tokens.stopped?_eq_some.1 stopped).1⟩
    · rintro ⟨position, isFault⟩ tokenizes
      rcases Tokens.exists_stopped_of_isFault isFault with ⟨mismatch, stopped, _⟩
      rw [Tokens.ofString, stopped] at tokenizes
      cases tokenizes
  · intro mismatch stopped
    have isFirst := Tokens.stopped?_eq_some.1 stopped
    refine ⟨isFirst.1, fun position isFault => ?_, isFirst.2, ?_⟩
    · rcases Tokens.exists_stopped_of_isFault isFault with ⟨other, otherStopped, rfl⟩
      rw [Tokens.ofString, otherStopped] at stopped
      cases stopped
      exact Nat.le_refl _
    · rw [Tokens.ofString, String.toList_ofList]
      exact Tokens.ofCharsAt_take stopped
  · intro more tokenizes lineEnd
    have isLineEnd : ∀ char ∈ text.toList.getLast?, char = '\n' := by simp [lineEnd]
    rw [Tokens.ofString, String.toList_append, Tokens.ofCharsAt_append tokenizes (.inl isLineEnd),
      Nat.add_comm, Tokens.ofCharsAt_add, String.length_toList]
    rfl

/-- A line whose comment has a quote in it, in front of a text that stops at a single slash. -/
theorem tokens_cover_commented :
    (Tokens.ofString "a // 'b\n").stopped? = none ∧ "a // 'b\n".toList.getLast? = some '\n' ∧
      (Tokens.ofString "c / d").stopped? = some ⟨.unexpectedCharacter '/', 2⟩ ∧
      IsFault "c / d".toList 2 ∧
      Tokens.ofString ("a // 'b\n" ++ "c / d") =
        ((Tokens.ofString "c / d").shifted "a // 'b\n".length).after
        (Tokens.ofString "a // 'b\n").tokens := by
  have tokenizes : (Tokens.ofString "a // 'b\n").stopped? = none := by decide +kernel
  have lineEnd : "a // 'b\n".toList.getLast? = some '\n' := by decide
  have stopped : (Tokens.ofString "c / d").stopped? = some ⟨.unexpectedCharacter '/', 2⟩ := by
    decide +kernel
  exact ⟨tokenizes, lineEnd, stopped, ((tokens_cover "c / d").2.2.1 _ stopped).1,
    (tokens_cover "a // 'b\n").2.2.2 "c / d" tokenizes lineEnd⟩

end Schemagram.Strict
