import Mathlib.Data.List.Infix
import Schemagram.Text.Letter
import Schemagram.Text.Piece

/-!
# Parts of a text

A part of a text stands somewhere in it without a gap.  What a text is cut into and what is left of
it when it is trimmed are parts of it.  The other way around, a part that does without the mark at a
cut, or whose ends belong to no run around a text, stands on one side of the cut or within the text.

A part of a text in lower case stems from a part of the text itself.
-/

namespace Schemagram.Text

variable {part text : List Char}

theorem contains_iff : contains part text = true ↔ part <:+: text := by
  induction text with
  | nil => rw [contains, List.isEmpty_iff, List.infix_nil]
  | cons char more ih =>
    rw [contains, Bool.or_eq_true, List.isPrefixOf_iff_prefix, ih, List.infix_cons_iff]

/-! ### Parts at a cut -/

/-- A part without a mark does not reach over it. -/
theorem infix_append_cons {mark : Char} {first rest : List Char} (absent : mark ∉ part)
    (isPart : part <:+: first ++ mark :: rest) : part <:+: first ∨ part <:+: rest := by
  have atStart (first : List Char) (isPrefix : part <+: first ++ mark :: rest) :
      part <+: first := by
    have cut : first ++ [mark] <+: first ++ mark :: rest := ⟨rest, by simp⟩
    rcases List.prefix_or_prefix_of_prefix isPrefix cut with short | long
    · rcases List.prefix_concat_iff.1 short with rfl | short
      · simp at absent
      · exact short
    · exact absurd (long.subset (by simp)) absent
  induction first with
  | nil =>
    rcases List.infix_cons_iff.1 isPart with isPrefix | isPart
    · exact .inl (atStart [] isPrefix).isInfix
    · exact .inr isPart
  | cons char more ih =>
    rw [List.cons_append] at isPart
    rcases List.infix_cons_iff.1 isPart with isPrefix | isPart
    · exact .inl (atStart (char :: more) isPrefix).isInfix
    · rcases ih isPart with inMore | inRest
      · exact .inl (List.infix_cons inMore)
      · exact .inr inRest

/-- A part without the mark between the pieces of a text stands in one of the pieces. -/
theorem exists_of_infix_join {mark : Char} {pieces : List (List Char)} (nonempty : part ≠ [])
    (absent : mark ∉ part) (isPart : part <:+: join [mark] pieces) :
    ∃ piece ∈ pieces, part <:+: piece := by
  induction pieces with
  | nil => exact absurd (List.infix_nil.1 isPart) nonempty
  | cons first more ih =>
    cases more with
    | nil => exact ⟨first, List.mem_cons_self, isPart⟩
    | cons second more =>
      rw [join, List.append_assoc] at isPart
      · rcases infix_append_cons absent isPart with inFirst | inMore
        · exact ⟨first, List.mem_cons_self, inFirst⟩
        · rcases ih inMore with ⟨piece, mem, inPiece⟩
          exact ⟨piece, List.mem_cons_of_mem first mem, inPiece⟩
      · simp

theorem infix_join (separator : List Char) {pieces : List (List Char)} (mem : part ∈ pieces) :
    part <:+: join separator pieces := by
  induction pieces with
  | nil => cases mem
  | cons first more ih =>
    cases more with
    | nil => rw [List.mem_singleton.1 mem, join]
    | cons second more =>
      rw [join, List.append_assoc]
      · rcases List.mem_cons.1 mem with rfl | mem
        · exact List.infix_append_of_infix_left (List.infix_refl _)
        · exact (ih mem).trans ⟨first ++ separator, [], by simp⟩
      · simp

theorem map_join (change : Char → Char) (separator : List Char) (pieces : List (List Char)) :
    (join separator pieces).map change = join (separator.map change)
    (pieces.map (List.map change)) := by
  induction pieces with
  | nil => rfl
  | cons first more ih =>
    cases more with
    | nil => rfl
    | cons second more =>
      simp only [join, List.map_append, List.map_cons] at ih ⊢
      rw [ih]

/-- What a text is cut into are parts of it. -/
theorem infix_of_mem_splitOn {separator : Char} (mem : part ∈ splitOn separator text) :
    part <:+: text := by
  have inJoin := infix_join [separator] mem
  rwa [join_splitOn] at inJoin

/-- What a text is cut at stands in none of its pieces. -/
theorem not_mem_of_mem_splitOn {separator : Char} (isPiece : part ∈ splitOn separator text) :
    separator ∉ part := by
  induction text generalizing part with
  | nil =>
    rw [splitOn, List.mem_singleton] at isPiece
    rw [isPiece]
    exact List.not_mem_nil
  | cons first rest ih =>
    rw [splitOn] at isPiece
    split at isPiece
    · rcases List.mem_cons.1 isPiece with rfl | isPiece
      · exact List.not_mem_nil
      · exact ih isPiece
    · rename_i other
      split at isPiece
      · rw [List.mem_singleton.1 isPiece, List.mem_singleton]
        exact Ne.symm other
      · rename_i front pieces cut
        rw [cut] at ih
        rcases List.mem_cons.1 isPiece with rfl | isPiece
        · rw [List.mem_cons, not_or]
          exact ⟨Ne.symm other, ih List.mem_cons_self⟩
        · exact ih (List.mem_cons_of_mem _ isPiece)

/-! ### Parts within a run -/

/-- A part that begins outside of a class does not begin in a run of the class. -/
theorem infix_of_run_append {isInside : Char → Bool} {before : List Char}
    (isRun : ∀ char ∈ before, isInside char = true) (nonempty : part ≠ [])
    (first : ∀ char ∈ part.head?, isInside char = false) (isPart : part <:+: before ++ text) :
    part <:+: text := by
  induction before with
  | nil => exact isPart
  | cons char more ih =>
    apply ih fun other mem => isRun other (List.mem_cons_of_mem char mem)
    rw [List.cons_append] at isPart
    rcases List.infix_cons_iff.1 isPart with isPrefix | isPart
    · cases part with
      | nil => exact absurd rfl nonempty
      | cons other tail =>
        rw [List.cons_prefix_cons] at isPrefix
        have inside := isRun char List.mem_cons_self
        rw [← isPrefix.1, first other rfl] at inside
        cases inside
    · exact isPart

/-- A part with no white space at its ends does not reach into the white space around a text. -/
theorem infix_of_spaces {before after : List Char} (isBefore : ∀ char ∈ before, isSpace char = true)
    (isAfter : ∀ char ∈ after, isSpace char = true) (nonempty : part ≠ [])
    (first : ∀ char ∈ part.head?, isSpace char = false)
    (last : ∀ char ∈ part.getLast?, isSpace char = false)
    (isPart : part <:+: before ++ (text ++ after)) : part <:+: text := by
  have behind := infix_of_run_append isBefore nonempty first isPart
  rw [← List.reverse_infix, List.reverse_append] at behind
  rw [← List.reverse_infix]
  refine infix_of_run_append (fun char mem => isAfter char (List.mem_reverse.1 mem))
    (by simpa using nonempty) ?_ behind
  rwa [List.head?_reverse]

theorem dropEndWhile_isPart (isDropped : Char → Bool) (text : List Char) :
    dropEndWhile isDropped text <+: text := by
  induction text with
  | nil => exact List.prefix_refl _
  | cons char rest ih =>
    rw [dropEndWhile]
    split
    · split
      · exact List.nil_prefix
      · exact List.cons_prefix_cons.2 ⟨rfl, List.nil_prefix⟩
    · exact List.cons_prefix_cons.2 ⟨rfl, ih⟩

theorem trim_isPart (text : List Char) : trim text <:+: text :=
  (dropEndWhile_isPart isSpace _).isInfix.trans (List.dropWhile_suffix isSpace).isInfix

/-! ### Parts in lower case -/

theorem lower_append (first second : List Char) :
    lower (first ++ second) = lower first ++ lower second :=
  List.flatMap_append

theorem lower_cons (char : Char) (rest : List Char) :
    lower (char :: rest) = lowerChar char ++ lower rest :=
  List.flatMap_cons

theorem infix_lower (isPart : part <:+: text) : lower part <:+: lower text := by
  rcases isPart with ⟨before, after, rfl⟩
  exact ⟨lower before, lower after, by simp [lower_append]⟩

/-- What lower case makes of letters outside of the basic alphabet. -/
def foreignLower : List Char := ['k', 'i', '\u0307']

/-- A character in lower case is a small letter, but for the Kelvin sign and the i with a dot. -/
theorem lowerChar_cases (char : Char) :
    lowerChar char = [small char] ∨ lowerChar char ≠ [] ∧ ∀ letter ∈ lowerChar char,
    letter ∈ foreignLower := by
  unfold lowerChar
  split
  · exact .inr (by decide)
  · split
    · exact .inr (by decide)
    · exact .inl rfl

/-- What is part of a text in lower case is made of small letters, or stems from a letter of another
alphabet. -/
theorem of_mem_lower {char : Char} (mem : char ∈ lower text) :
    (∃ letter ∈ text, char = small letter) ∨ char ∈ foreignLower := by
  rcases List.mem_flatMap.1 mem with ⟨letter, memText, memLetter⟩
  rcases lowerChar_cases letter with isSmall | ⟨_, isForeign⟩
  · rw [isSmall, List.mem_singleton] at memLetter
    exact .inl ⟨letter, memText, memLetter⟩
  · exact .inr (isForeign char memLetter)

theorem exists_written_of_lower (basic : ∀ char ∈ part, char ∉ foreignLower)
    (isPrefix : part <+: lower text) :
    ∃ written, written <+: text ∧ written.map small = part := by
  induction text generalizing part with
  | nil => exact ⟨[], List.nil_prefix, (List.prefix_nil.1 isPrefix).symm⟩
  | cons char rest ih =>
    cases part with
    | nil => exact ⟨[], List.nil_prefix, rfl⟩
    | cons letter more =>
      rw [lower_cons] at isPrefix
      rcases lowerChar_cases char with isSmall | ⟨nonempty, isForeign⟩
      · rw [isSmall, List.singleton_append, List.cons_prefix_cons] at isPrefix
        rcases ih (fun other mem => basic other (List.mem_cons_of_mem letter mem)) isPrefix.2 with
          ⟨written, inRest, rfl⟩
        exact ⟨char :: written,
          List.cons_prefix_cons.2 ⟨rfl, inRest⟩, by rw [List.map_cons, ← isPrefix.1]⟩
      · -- The part would begin with what lower case makes of a letter of another alphabet.
        rcases List.exists_cons_of_ne_nil nonempty with ⟨first, others, split⟩
        rw [split, List.cons_append, List.cons_prefix_cons] at isPrefix
        rw [split] at isForeign
        rw [isPrefix.1] at basic
        exact absurd (isForeign first List.mem_cons_self) (basic first List.mem_cons_self)

/-- A part of a text in lower case that no letter of another alphabet leads to is written in the
text, in some case. -/
theorem exists_infix_of_lower (basic : ∀ char ∈ part, char ∉ foreignLower)
    (isPart : part <:+: lower text) :
    ∃ written, written <:+: text ∧ written.map small = part := by
  induction text with
  | nil => exact ⟨[], List.nil_infix, (List.infix_nil.1 isPart).symm⟩
  | cons char rest ih =>
    have inRest (isPart : part <:+: lower rest) : ∃ written, written <:+: char :: rest ∧
        written.map small = part := by
      rcases ih isPart with ⟨written, inText, same⟩
      exact ⟨written, List.infix_cons inText, same⟩
    by_cases isPrefix : part <+: lower (char :: rest)
    · rcases exists_written_of_lower basic isPrefix with ⟨written, inText, same⟩
      exact ⟨written, inText.isInfix, same⟩
    · apply inRest
      rw [lower_cons] at isPart isPrefix
      rcases lowerChar_cases char with isSmall | ⟨_, isForeign⟩
      · rw [isSmall, List.singleton_append] at isPart isPrefix
        exact (List.infix_cons_iff.1 isPart).resolve_left isPrefix
      · have isRun : ∀ letter ∈ lowerChar char, decide (letter ∈ foreignLower) = true := by
          simpa using isForeign
        refine infix_of_run_append isRun ?_ ?_ isPart
        · rintro rfl
          exact isPrefix List.nil_prefix
        · intro letter mem
          simpa using basic letter (List.mem_of_mem_head? mem)

end Schemagram.Text
