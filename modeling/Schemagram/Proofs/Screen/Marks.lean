import Mathlib.Data.List.Infix
import Mathlib.Data.List.TakeWhile
import Schemagram.Proofs.Results
import Schemagram.Proofs.Scan.Forms
import Schemagram.Screen.Console

/-!
# What marks mean

A text without brackets, colons and controls shows itself.  Up to the first bracket a text is a
single piece, so that a closing tag there finds nothing to close, and an opening one between texts
that show themselves leaves just these.  A text in which no slash stands behind a bracket has no
closing tags, and opening ones are never refused.
-/

namespace Schemagram.Screen.Markup

open Except (exists_map_iff)

/-! ### Tags -/

theorem tag_eq_some {text after inside : List Char} {backslashes : Nat}
    (read : tag text = some ((backslashes, inside), after)) :
    ∃ before first more, (∀ char ∈ before, char = '\\') ∧ isTagStart first = true ∧
    inside = first :: more ∧
      text = before ++ '[' :: (inside ++ ']' :: after) := by
  simp only [tag, Scan.bind_eq_some, Scan.run_eq_some, Scan.mark_eq_some, Scan.one_eq_some,
    Scan.pure_eq_some] at read
  rcases read with
    ⟨slashes, _, ⟨rfl, areSlashes, _⟩, _, _, rfl, first, _, ⟨rfl, isStart⟩, more, _, ⟨rfl, _⟩, _, _,
      rfl, same, rfl⟩
  cases same
  exact ⟨slashes, first, more, fun char mem => by simpa using areSlashes char mem,
    isStart, rfl, rfl⟩

/-- A bracket, a text that starts as a tag does, and the closing bracket make a tag. -/
theorem tag_of_inside {first : Char} {more after : List Char} (isStart : isTagStart first = true)
    (noOpening : '[' ∉ more) (noClosing : ']' ∉ more) :
    tag ('[' :: first :: (more ++ ']' :: after)) = some ((0, first :: more), after) := by
  have inside : ∀ char ∈ more, (char ≠ '[' && char ≠ ']') = true := by
    intro char mem
    simp [ne_of_mem_of_not_mem mem noOpening, ne_of_mem_of_not_mem mem noClosing]
  simp only [tag, Scan.bind_eq_some, Scan.run_eq_some, Scan.mark_eq_some, Scan.one_eq_some,
    Scan.pure_eq_some]
  exact ⟨[], _, ⟨rfl, by simp, by simp⟩, (), _, rfl, first, _, ⟨rfl, isStart⟩, more, _,
    ⟨rfl, inside, by simp⟩, (), _, rfl,
    rfl, rfl⟩

/-! ### Pieces -/

theorem mem_putShown {char : Char} {pieces : List Piece} {position backslashes : Nat}
    {inside : List Char} (mem : .tag position backslashes inside ∈ putShown char pieces) :
    .tag position backslashes inside ∈ pieces := by
  unfold putShown at mem
  split at mem
  · rcases List.mem_cons.1 mem with same | memMore
    · cases same
    · exact List.mem_cons_of_mem _ memMore
  · rcases List.mem_cons.1 mem with same | memPieces
    · cases same
    · exact memPieces

/-- What stands between the brackets of a tag stands in the text. -/
theorem infix_of_mem_pieces {position start backslashes : Nat} {text inside : List Char}
    (mem : .tag start backslashes inside ∈ pieces position text) : '[' :: inside <:+: text := by
  fun_induction pieces position text with
  | case1 => cases mem
  | case2 position char rest slashes found after read ih =>
    rcases tag_eq_some read with ⟨before, _, _, _, _, _, whole⟩
    rcases List.mem_cons.1 mem with same | memMore
    · cases same
      exact ⟨before, ']' :: after, by simp [whole]⟩
    · refine (ih memMore).trans (List.IsSuffix.isInfix ?_)
      split
      · exact ⟨before ++ '[' :: (found ++ [']']), by simp [whole]⟩
      · exact List.suffix_cons char rest
  | case3 position char rest failed _ ih =>
    exact (ih (mem_putShown mem)).trans
      ((List.drop_suffix 1 rest).trans (List.suffix_cons char rest)).isInfix
  | case4 position char rest failed _ ih =>
    exact (ih (mem_putShown mem)).trans (List.suffix_cons char rest).isInfix

/-- Puts a text that is shown before some pieces. -/
def putText (text : List Char) (pieces : List Piece) : List Piece := text.foldr putShown pieces

/-- A text without a bracket is put before the pieces of what stands behind it, unless its last
backslash is before a bracket there. -/
theorem pieces_append {text rest : List Char} (noBracket : '[' ∉ text)
    (ends : rest.head? = some '[' → text.getLast? ≠ some '\\') (position : Nat)
    (behind : rest = [] ∨ ∃ more, rest = '[' :: more) :
    pieces position (text ++ rest) = putText text (pieces (position + text.length) rest) := by
  induction text generalizing position with
  | nil => rfl
  | cons char more ih =>
    have noTag : tag (char :: (more ++ rest)) = none := by
      rw [Option.eq_none_iff_forall_ne_some]
      rintro ⟨⟨backslashes, inside⟩, after⟩ read
      rcases tag_eq_some read with ⟨before, first, others, areSlashes, _, _, whole⟩
      have noBracketBefore : '[' ∉ before := fun mem => absurd (areSlashes '[' mem) (by decide)
      rcases behind with rfl | ⟨behind, rfl⟩
      · rw [List.append_nil] at whole
        exact noBracket (whole ▸ List.mem_append_right _ List.mem_cons_self)
      · -- The first bracket is the one behind the text, so that the backslashes are the text.
        rcases Text.append_cons_inj noBracket noBracketBefore whole with ⟨rfl, _⟩
        refine ends rfl ?_
        rw [List.getLast?_eq_some_getLast (List.cons_ne_nil char more)]
        exact congrArg some (areSlashes _ (List.getLast_mem _))
    have noEscape : ¬(char = '\\' ∧ (more ++ rest).head? = some '[') := by
      rintro ⟨rfl, isBracket⟩
      cases more with
      | nil => exact ends isBracket rfl
      | cons next others =>
        cases isBracket
        exact noBracket (List.mem_cons_of_mem _ List.mem_cons_self)
    rw [List.mem_cons, not_or] at noBracket
    have endsMore : rest.head? = some '[' → more.getLast? ≠ some '\\' := by
      intro isBracket isSlash
      refine ends isBracket ?_
      rw [List.getLast?_cons, isSlash]
      rfl
    rw [List.cons_append, pieces, noTag]
    simp only [Bool.and_eq_true, decide_eq_true_eq, if_neg noEscape]
    rw [ih noBracket.2 endsMore, putText, putText, List.foldr_cons, List.length_cons, Nat.add_assoc,
      Nat.add_comm 1]

theorem putText_eq_shown {text : List Char} (nonempty : text ≠ []) {pieces : List Piece}
    (noText : ∀ first ∈ pieces.head?, ∀ shown, first ≠ .shown shown) :
    putText text pieces = .shown text :: pieces := by
  induction text with
  | nil => exact absurd rfl nonempty
  | cons char more ih =>
    cases more with
    | nil =>
      rw [putText, List.foldr_cons, List.foldr_nil, putShown]
      rintro shown others rfl
      exact noText _ rfl shown rfl
    | cons next rest =>
      rw [putText, List.foldr_cons, ← putText, ih (List.cons_ne_nil next rest)]
      rfl

/-- A text before pieces that start with a tag or that there are none of is shown in front of what
they show. -/
theorem show?_putText {opened : List String} {text : List Char} {pieces : List Piece}
    (noText : ∀ first ∈ pieces.head?, ∀ shown, first ≠ .shown shown) :
    show? opened (putText text pieces) =
      if text = [] then show? opened pieces else (show? opened pieces).map
      (Emoji.replace text ++ ·) := by
  split
  · rename_i empty
    rw [empty]
    rfl
  · rename_i nonempty
    rw [putText_eq_shown nonempty noText, show?]

theorem pieces_tag {first : Char} {more after : List Char} (isStart : isTagStart first = true)
    (noOpening : '[' ∉ more) (noClosing : ']' ∉ more) (position : Nat) :
    pieces position ('[' :: first :: (more ++ ']' :: after)) =
      .tag position 0 (first :: more) :: pieces (position + 0 + (first :: more).length + 2)
        after := by
  have shorter : after.length ≤ (first :: (more ++ ']' :: after)).length := by
    simp only [List.length_cons, List.length_append]
    omega
  rw [pieces, tag_of_inside isStart noOpening noClosing]
  dsimp only
  rw [if_pos shorter]

/-! ### Texts without marks -/

theorem replace_of_not_mem {text : List Char} (noColon : ':' ∉ text) :
    Emoji.replace text = text := by
  rw [Emoji.replace, Text.splitOn_of_not_mem noColon]
  exact List.append_nil text

section

variable {text : List Char} (quiet : ∀ char ∈ text, isQuiet char = true)

include quiet

theorem not_mem_of_quiet {char : Char} (loud : isQuiet char = false) : char ∉ text := by
  intro mem
  rw [quiet char mem] at loud
  cases loud

theorem withoutActing_of_quiet : withoutActing text = text := by
  refine List.filter_eq_self.2 fun char mem => ?_
  have isQuietChar := quiet char mem
  rw [isQuiet, Bool.and_eq_true] at isQuietChar
  exact isQuietChar.2

theorem show?_pieces_of_quiet (opened : List String) (position : Nat) :
    show? opened (pieces position text) = .ok text := by
  have noBracket := not_mem_of_quiet quiet (by decide : isQuiet '[' = false)
  have noColon := not_mem_of_quiet quiet (by decide : isQuiet ':' = false)
  have isShown := @pieces_append text [] noBracket (by simp) position (.inl rfl)
  rw [List.append_nil] at isShown
  rw [isShown, pieces, show?_putText (by simp), replace_of_not_mem noColon]
  split
  · rename_i empty
    rw [empty]
    rfl
  · exact congrArg Except.ok (List.append_nil text)

theorem plain_of_quiet : plain text = .ok text := by
  rw [plain, show?_pieces_of_quiet quiet]
  exact congrArg Except.ok (withoutActing_of_quiet quiet)

end

/-! ### Opening tags -/

theorem not_mem_of_small {word : List Char} (small : ∀ char ∈ word, 'a' ≤ char ∧ char ≤ 'z')
    {char : Char} (isOther : ¬('a' ≤ char ∧ char ≤ 'z')) :
    char ∉ word := fun mem => isOther (small char mem)

theorem plain_of_hasTag {text before after : List Char} (hasTag : HasTag text before after) :
    plain text = .ok (before ++ after) := by
  rcases hasTag with ⟨word, rfl, nonempty, small, quiet, noSlash⟩
  have quietBefore := (List.forall_mem_append.1 quiet).1
  have quietAfter := (List.forall_mem_append.1 quiet).2
  have noBracket := not_mem_of_quiet quietBefore (by decide : isQuiet '[' = false)
  have noColon := not_mem_of_quiet quietBefore (by decide : isQuiet ':' = false)
  have noOpening : '[' ∉ word := not_mem_of_small small (by decide)
  have noClosing : ']' ∉ word := not_mem_of_small small (by decide)
  have noSign : '=' ∉ word := not_mem_of_small small (by decide)
  rcases List.exists_cons_of_ne_nil nonempty with ⟨first, more, rfl⟩
  have isSmall := small first List.mem_cons_self
  have isStart : isTagStart first = true := by simp [isTagStart, isSmall]
  have isNoSlash : first ≠ '/' := by
    rintro rfl
    exact absurd isSmall (by decide)
  have name : (first :: more).takeWhile (· ≠ '=') = first :: more := by
    refine List.takeWhile_eq_self_iff.2 fun char mem => ?_
    simpa using ne_of_mem_of_not_mem mem noSign
  rw [List.mem_cons, not_or] at noOpening noClosing
  have split : pieces 0 (before ++ '[' :: (first :: more ++ ']' :: after)) = putText before
      (.tag (0 + before.length) 0 (first :: more) :: pieces
        (0 + before.length + 0 + (first :: more).length + 2) after) := by
    rw [pieces_append noBracket (fun _ => noSlash) 0 (.inr ⟨_, rfl⟩), List.cons_append,
      pieces_tag isStart noOpening.2 noClosing.2]
  have shown : show? [] (.tag (0 + before.length) 0 (first :: more) ::
      pieces (0 + before.length + 0 + (first :: more).length + 2) after) = .ok after := by
    rw [show?]
    simp only [Nat.zero_mod, Nat.zero_ne_one, if_false, name, List.head?_cons,
      Option.some.injEq, isNoSlash, show?_pieces_of_quiet quietAfter]
    rfl
  rw [plain, split, show?_putText (by simp), shown, replace_of_not_mem noColon]
  have whole : (if before = [] then Except.ok after else (Except.ok after).map (before ++ ·) :
      Except Fault (List Char)) =
      .ok (before ++ after) := by
    split
    · rename_i empty
      rw [empty]
      rfl
    · rfl
  rw [whole]
  exact congrArg Except.ok (withoutActing_of_quiet quiet)

/-! ### Closing tags -/

/-- Only a closing tag is ever refused. -/
theorem exists_show?_of_not_closing {pieces : List Piece} (opened : List String)
    (notClosing : ∀ position backslashes inside, .tag position backslashes inside ∈ pieces →
      inside.head? ≠ some '/') :
    ∃ shown, show? opened pieces = .ok shown := by
  induction pieces generalizing opened with
  | nil => exact ⟨[], rfl⟩
  | cons piece more ih =>
    have others := fun opened => ih opened fun position backslashes inside mem =>
      notClosing position backslashes inside (List.mem_cons_of_mem piece mem)
    cases piece with
    | shown text =>
      rw [show?]
      exact exists_map_iff.2 (others opened)
    | tag position backslashes inside =>
      have opens : (inside.takeWhile (· ≠ '=')).head? ≠ some '/' := by
        have isOther := notClosing position backslashes inside List.mem_cons_self
        cases inside with
        | nil => simp
        | cons char rest =>
          rw [List.takeWhile_cons]
          split
          · exact isOther
          · simp
      rw [show?.eq_def]
      dsimp only
      split
      · exact exists_map_iff.2 (others opened)
      · exact exists_map_iff.2 (others _)

theorem exists_plain_of_not_infix {text : List Char} (noClosing : ¬['[', '/'] <:+: text) :
    ∃ shown, plain text = .ok shown := by
  rw [plain, exists_map_iff]
  refine exists_show?_of_not_closing [] fun position backslashes inside mem isClosing =>
    noClosing ?_
  cases inside with
  | nil => cases isClosing
  | cons char rest =>
    cases isClosing
    exact .trans ⟨[], rest, rfl⟩ (infix_of_mem_pieces mem)

/-- A closing tag where nothing is open is refused. -/
theorem exists_show?_error {position : Nat} {name : List Char} {more : List Piece} :
    ∃ fault, show? [] (.tag position 0 ('/' :: name) :: more) = .error fault := by
  have closes : ('/' :: name).takeWhile (· ≠ '=') = '/' :: name.takeWhile (· ≠ '=') := rfl
  rw [show?]
  simp only [Nat.zero_mod, Nat.zero_ne_one, if_false, closes, List.head?_cons, if_true]
  split
  · exact ⟨_, rfl⟩
  · exact ⟨_, rfl⟩

theorem exists_plain_error {text : List Char} (closes : ClosesFirst text) :
    ∃ fault, plain text = .error fault := by
  rcases closes with ⟨before, name, after, rfl, noBracket, noSlash, noOpening, noClosing⟩
  have split : pieces 0 (before ++ '[' :: '/' :: (name ++ ']' :: after)) = putText before
      (.tag (0 + before.length) 0 ('/' :: name) :: pieces
        (0 + before.length + 0 + ('/' :: name).length + 2) after) := by
    rw [pieces_append noBracket (fun _ => noSlash) 0 (.inr ⟨_, rfl⟩),
      pieces_tag rfl noOpening noClosing]
  rcases @exists_show?_error (0 + before.length) name
    (pieces (0 + before.length + 0 + ('/' :: name).length + 2) after)
    with ⟨fault, refused⟩
  refine ⟨fault, ?_⟩
  rw [plain, split, show?_putText (by simp), refused]
  split <;> rfl

end Schemagram.Screen.Markup
