import Schemagram.Proofs.Strict.Coverage
import Schemagram.Proofs.Strict.FirstFault

/-!
# What a mismatch of the strict grammar tells

A mismatch points at the text that it names, or at the end.  Only a size that is no number is
reported at another place, the closing parenthesis behind it.

The tokens before a mismatch are the beginning of a list that the parser accepts, if it may take any
word for a size, and together with the token at fault they are not.  So every text is refused at the
first token that makes it impossible to go on.
-/

namespace Schemagram.Strict

open Text

/-- The text that a mismatch says was found. -/
def Mismatch.Cause.found? : Mismatch.Cause → Option String
  | .unexpectedCharacter char => some (String.singleton char)
  | .expected _ found => some found
  | .unknownProperty found => some found
  | .expectedNumber _ found => some found
  | .unexpectedEnd => none
  | .noteTwice => none

/-- From an offset on, a text begins with another one. -/
def StandsAt (text : String) (position : Nat) (found : String) :
    Prop := found.toList <+: text.toList.drop position

/-- How many tokens start before an offset. -/
def countBefore (position : Nat) (tokens : List Token) :
    Nat := tokens.countP (·.position < position)

theorem covers_ofString (text : String) :
    Covers text.toList 0 ((Tokens.ofString text).finish text.toList)
    (Tokens.ofString text).tokens :=
  @Tokens.covers_ofCharsAt [] text.toList 0 (Nat.le_refl 0) (Layout.isGapBefore_nil _)
    (.inr (ends_nil isWord))

theorem standsAt_of_mem {text : String} {token : Token}
    (mem : token ∈ (Tokens.ofString text).tokens) :
    StandsAt text token.position token.text := by
  rw [StandsAt, ← (covers_ofString text).slices token mem, List.extract_eq_take_drop]
  exact List.take_prefix _ _

theorem declarations_eq_error {text : String} {mismatch : Mismatch} :
    declarations text = .error mismatch ↔ parse? text = ⟨none, [.grammarMismatch mismatch]⟩ := by
  unfold parse?
  cases declarations text with
  | error other => simp
  | ok found =>
    simp only [reduceCtorEq, false_iff]
    intro same
    cases congrArg Logged.result same

/-- A text is refused by its characters or by its tokens. -/
theorem declarations_eq_error_iff {text : String} {mismatch : Mismatch} :
    declarations text = .error mismatch ↔ (Tokens.ofString text).stopped? = some mismatch ∨
      (Tokens.ofString text).stopped? = none ∧
        Grammar.schema text.length (Tokens.ofString text).tokens = .error mismatch := by
  unfold declarations
  cases stopped : (Tokens.ofString text).stopped? with
  | some other => simp [stopped]
  | none =>
    cases read : Grammar.schema text.length (Tokens.ofString text).tokens with
    | error failed => simp [stopped, read, Except.map]
    | ok found => simp [stopped, read, Except.map]

/-! ### The text that is named -/

/-- A mismatch names what stands at its offset.  For a size that is no number, the closing
parenthesis stands there, and the size somewhere before it. -/
theorem found_at_offset {text : String} {mismatch : Mismatch}
    (reported : parse? text = ⟨none, [.grammarMismatch mismatch]⟩) :
    (∀ found, mismatch.cause.found? = some found → mismatch.cause.isNumberCheck = false →
      StandsAt text mismatch.position found) ∧
    (mismatch.cause = .unexpectedEnd → mismatch.position = text.length) ∧
    (mismatch.cause = .noteTwice → StandsAt text mismatch.position "Note") ∧
    ∀ base size, mismatch.cause = .expectedNumber base size → StandsAt text mismatch.position ")" ∧
      ∃ token ∈ (Tokens.ofString text).tokens, token.kind = .word ∧ token.text = size ∧
        StandsAt text token.position size ∧ token.finish ≤ mismatch.position := by
  rcases declarations_eq_error_iff.1 (declarations_eq_error.2 reported) with stopped | ⟨_, failed⟩
  · have isFault := (Tokens.stopped?_eq_some.1 stopped).2
    rcases Option.map_eq_some_iff.1 isFault with ⟨char, isChar, isCause⟩
    rw [← isCause]
    refine ⟨?_, by simp, by simp, by simp⟩
    intro found isFound _
    cases isFound
    rcases List.getElem?_eq_some_iff.1 isChar with ⟨inside, rfl⟩
    rw [StandsAt, List.drop_eq_getElem_cons inside, String.toList_singleton]
    exact List.prefix_cons_iff.2 (.inr ⟨[], rfl, List.nil_prefix⟩)
  · rcases (Grammar.prompt_schema text.length 0).fails failed with ⟨taken, rest, split, arises, _⟩
    have stands (token : Token) (mem : token ∈ rest) : StandsAt text token.position token.text :=
      standsAt_of_mem (by rw [split]; exact List.mem_append_right taken mem)
    cases arises with
    | unexpectedEnd => simp [Mismatch.Cause.found?]
    | expected wanted token rest =>
      simpa [Mismatch.Cause.found?, Mismatch.Cause.isNumberCheck] using stands
        token List.mem_cons_self
    | unknownProperty token rest =>
      simpa [Mismatch.Cause.found?, Mismatch.Cause.isNumberCheck] using stands
        token List.mem_cons_self
    | noteTwice colon rest isNote =>
      have standsNote := stands _ List.mem_cons_self
      rw [Token.text_of_isMark isNote] at standsNote
      simpa [Mismatch.Cause.found?] using standsNote
    | @expectedNumber base size closing rest mem isWord isClosing =>
      have standsClosing := stands _ List.mem_cons_self
      rw [Token.text_of_isMark isClosing] at standsClosing
      have isToken : size ∈ (Tokens.ofString text).tokens := by
        rw [split]
        exact List.mem_append_left _ mem
      have rising := (covers_ofString text).rising
      rw [split, List.pairwise_append] at rising
      refine ⟨by simp [Mismatch.Cause.isNumberCheck], by simp, by simp, ?_⟩
      rintro _ _ isCause
      cases isCause
      exact ⟨standsClosing, size, isToken, isWord, rfl, standsAt_of_mem isToken,
        (rising.2.2 size mem closing List.mem_cons_self).2⟩

theorem found_at_offset_of_property :
    parse? "Table t \x7b a v [x] \x7d" = ⟨none, [.grammarMismatch ⟨.unknownProperty "x", 15⟩]⟩ ∧
      StandsAt "Table t \x7b a v [x] \x7d" 15 "x" := by
  have refused : declarations "Table t \x7b a v [x] \x7d" = .error ⟨.unknownProperty "x", 15⟩ := by
    decide +kernel
  have reported := declarations_eq_error.1 refused
  exact ⟨reported, (found_at_offset reported).1 "x" rfl rfl⟩

/-- A size that is no number does not stand at the offset that is reported. -/
theorem size_not_at_offset :
    ¬∀ text mismatch, parse? text = ⟨none, [.grammarMismatch mismatch]⟩ →
      ∀ found, mismatch.cause.found? = some found → StandsAt text mismatch.position found := by
  intro stands
  have refused : declarations "Table t \x7b a v(x) \x7d" =
      .error ⟨.expectedNumber "v" "x", 15⟩ := by
    decide +kernel
  have isClosing : ¬"x".toList <+: "Table t \x7b a v(x) \x7d".toList.drop 15 := by decide
  exact isClosing (stands _ _ (declarations_eq_error.1 refused) "x" rfl)

/-! ### The first token at fault -/

theorem countBefore_of_split {taken more : List Token} {token : Token}
    (rising : (taken ++ token :: more).Pairwise fun first second =>
      first.position < second.position) :
    countBefore token.position (taken ++ token :: more) = taken.length := by
  rw [List.pairwise_append, List.pairwise_cons] at rising
  rcases rising with ⟨_, ⟨behind, _⟩, before⟩
  have isBefore : taken.countP (·.position < token.position) = taken.length := by
    rw [List.countP_eq_length]
    intro first mem
    simpa using before first mem token List.mem_cons_self
  have isBehind : (token :: more).countP (·.position < token.position) = 0 := by
    rw [List.countP_eq_zero, List.forall_mem_cons]
    refine ⟨by simp, fun second mem => ?_⟩
    have := behind second mem
    simp only [decide_eq_true_eq]
    omega
  rw [countBefore, List.countP_append, isBefore, isBehind, Nat.add_zero]

/-- The parser accepts a list if it accepts it without the number check and the check finds
nothing. -/
theorem accepts_iff_unchecked (finish : Nat) {tokens : List Token} :
    Accepts tokens ↔ AcceptsUnchecked tokens ∧
      ∀ mismatch, Grammar.schema finish tokens = .error mismatch →
      mismatch.cause.isNumberCheck = false := by
  have prompt := Grammar.prompt_schema finish finish
  constructor
  · rintro ⟨found, isRead⟩
    refine ⟨?_, fun mismatch failed => ?_⟩
    · rcases prompt.passes (isRead finish) with ⟨_, _, taken, split, written, _⟩
      rw [List.append_nil] at split
      rw [split, AcceptsUnchecked, accepts_iff]
      exact written.mem
    · rw [isRead finish] at failed
      cases failed
  · rintro ⟨⟨found, isRead⟩, unchecked⟩
    cases read : Grammar.schema finish tokens with
    | ok result =>
      rcases (Grammar.schema_eq_ok finish).1 read with ⟨_, derivation, _, derives⟩
      exact accepts_iff.2 ⟨derivation, derives.symm⟩
    | error mismatch =>
      rcases prompt.fails read with ⟨taken, rest, rfl, _, atFault⟩
      rcases (atFault (unchecked mismatch read)).2 _ rfl with ⟨otherMismatch, refused⟩
      rw [← withZeros_append, isRead finish] at refused
      cases refused

/-- Unless a size is at fault, the token at fault is the first one left, or none is left. -/
theorem Mismatch.Arises.at_end_or_token {finish : Nat} {taken rest : List Token}
    {mismatch : Mismatch} (arises : mismatch.Arises finish taken rest)
    (unchecked : mismatch.cause.isNumberCheck = false) :
    rest = [] ∧ mismatch = ⟨.unexpectedEnd, finish⟩ ∨
      mismatch.cause ≠ .unexpectedEnd ∧ mismatch.cause.reach ≤ rest.length ∧
        ∃ token more, rest = token :: more ∧ mismatch.position = token.position := by
  cases arises with
  | unexpectedEnd => exact .inl ⟨rfl, rfl⟩
  | expected wanted token more =>
    exact .inr ⟨by simp, by simp [Mismatch.Cause.reach], token, more, rfl, rfl⟩
  | noteTwice colon more isNote =>
    exact .inr ⟨by simp, by simp [Mismatch.Cause.reach], _, _, rfl, rfl⟩
  | unknownProperty token more =>
    exact .inr ⟨by simp, by simp [Mismatch.Cause.reach], token, more, rfl, rfl⟩
  | expectedNumber base more mem isWord isClosing => cases unchecked

/-- The tokens that have been taken are the ones before the mismatch. -/
theorem countBefore_of_arises {text : String} {taken rest : List Token} {mismatch : Mismatch}
    (split : (Tokens.ofString text).tokens = taken ++ rest)
    (tokenizes : (Tokens.ofString text).stopped? = none)
    (arises : mismatch.Arises text.length taken rest)
    (unchecked : mismatch.cause.isNumberCheck = false) :
    countBefore mismatch.position (Tokens.ofString text).tokens = taken.length := by
  have covers := covers_ofString text
  rcases arises.at_end_or_token unchecked with ⟨rfl, rfl⟩ | ⟨_, _, token, more, rfl, isPosition⟩
  · rw [List.append_nil] at split
    rw [split] at covers ⊢
    refine List.countP_eq_length.2 fun token mem => ?_
    have isInside := (covers.inside token mem).2
    have nonempty := token.position_lt_finish
    rw [Tokens.finish_of_tokenizes tokenizes, String.length_toList] at isInside
    simp only [decide_eq_true_eq]
    omega
  · rw [split] at covers ⊢
    rw [isPosition]
    exact countBefore_of_split (covers.rising.imp And.left)

/-- The tokens before a mismatch can be completed to a list that is accepted but for the number
check.  With the token at fault, or with a second note and its colon, they cannot.  At the end of a
text all tokens are before it. -/
theorem mismatch_at_first_fault {text : String} {mismatch : Mismatch}
    (tokenizes : (Tokens.ofString text).stopped? = none)
    (reported : parse? text = ⟨none, [.grammarMismatch mismatch]⟩)
    (unchecked : mismatch.cause.isNumberCheck = false) :
    (∃ more, AcceptsUnchecked
      ((Tokens.ofString text).tokens.take
        (countBefore mismatch.position (Tokens.ofString text).tokens) ++ more)) ∧
    (mismatch.cause ≠ .unexpectedEnd → ¬∃ more, AcceptsUnchecked
      ((Tokens.ofString text).tokens.take
        (countBefore mismatch.position (Tokens.ofString text).tokens + mismatch.cause.reach) ++
          more)) ∧
    (mismatch.cause = .unexpectedEnd →
      countBefore mismatch.position (Tokens.ofString text).tokens =
      (Tokens.ofString text).tokens.length) := by
  rcases declarations_eq_error_iff.1 (declarations_eq_error.2 reported) with stopped | ⟨_, failed⟩
  · rw [tokenizes] at stopped
    cases stopped
  · rcases (Grammar.prompt_schema text.length 0).fails failed with
      ⟨taken, rest, split, arises, atFault⟩
    rcases atFault unchecked with ⟨⟨_, more, written⟩, refused⟩
    rw [countBefore_of_arises split tokenizes arises unchecked, split]
    refine ⟨⟨more, ?_⟩, ?_, ?_⟩
    · rw [List.take_left]
      exact accepts_iff.2 written.mem
    · rintro isToken ⟨more, found, isRead⟩
      rcases arises.at_end_or_token unchecked with ⟨_, rfl⟩ | ⟨_, reaches, _⟩
      · exact isToken rfl
      · rw [List.take_length_add_append, List.append_assoc, withZeros_append] at isRead
        have sameFront : (rest.take mismatch.cause.reach ++ more).take mismatch.cause.reach =
            rest.take mismatch.cause.reach := by
          rw [List.take_append_of_le_length (by simp [reaches]), List.take_take, Nat.min_self]
        have goesOnAlike :
            (withZeros (insideBehind false taken) (rest.take mismatch.cause.reach ++ more)).take
            mismatch.cause.reach = (withZeros (insideBehind false taken) rest).take
              mismatch.cause.reach := by
          rw [take_withZeros, take_withZeros, sameFront]
        rcases refused _ goesOnAlike with ⟨otherMismatch, otherFailed⟩
        rw [isRead 0] at otherFailed
        cases otherFailed
    · intro isEnd
      rcases arises.at_end_or_token unchecked with ⟨rfl, _⟩ | ⟨isToken, _⟩
      · rw [List.append_nil]
      · exact absurd isEnd isToken

/-- A table with two notes. -/
def twoNotes : String := "Table t \x7b Note: 'a' Note: 'b' \x7d"

/-- Before its second note, the table may go on; behind the colon of it, no more. -/
theorem mismatch_at_second_note :
    parse? twoNotes = ⟨none, [.grammarMismatch ⟨.noteTwice, 20⟩]⟩ ∧
      (∃ more, AcceptsUnchecked ((Tokens.ofString twoNotes).tokens.take 6 ++ more)) ∧
      ¬∃ more, AcceptsUnchecked ((Tokens.ofString twoNotes).tokens.take 8 ++ more) := by
  have tokenizes : (Tokens.ofString twoNotes).stopped? = none := by decide +kernel
  have refused : declarations twoNotes = .error ⟨.noteTwice, 20⟩ := by decide +kernel
  have six : countBefore 20 (Tokens.ofString twoNotes).tokens = 6 := by decide +kernel
  have reported := declarations_eq_error.1 refused
  have atFault := mismatch_at_first_fault tokenizes reported rfl
  rw [six] at atFault
  exact ⟨reported, atFault.1, atFault.2.1 (by simp)⟩

end Schemagram.Strict
