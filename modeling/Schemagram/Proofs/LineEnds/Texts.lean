import Mathlib.Data.List.Forall2
import Mathlib.Data.List.Infix
import Schemagram.Text.Piece

/-!
# Returns in front of line feeds

A text gets a carriage return in front of each of its line feeds.  A class that treats both
characters of a line end alike has the same runs in both texts, up to these returns; so trimming,
and cutting at another character, may be done before or after.  The lines between the line feeds
differ by a return at their end, which trimming takes away.
-/

namespace Schemagram.Text

/-- A text with a carriage return in front of each line feed. -/
def withReturns (text : List Char) : List Char :=
  text.flatMap fun char => if char = '\n' then ['\r', '\n'] else [char]

@[simp]
theorem withReturns_nil : withReturns [] = [] := rfl

theorem withReturns_line (rest : List Char) :
    withReturns ('\n' :: rest) = '\r' :: '\n' :: withReturns rest := rfl

theorem withReturns_cons {char : Char} (inLine : char ≠ '\n') (rest : List Char) :
    withReturns (char :: rest) = char :: withReturns rest := by
  simp [withReturns, inLine]

theorem withReturns_append (first rest : List Char) :
    withReturns (first ++ rest) = withReturns first ++ withReturns rest :=
  List.flatMap_append

/-- A text on one line stays as it is. -/
theorem withReturns_of_not_mem {text : List Char} (oneLine : '\n' ∉ text) :
    withReturns text = text := by
  induction text with
  | nil => rfl
  | cons char rest ih =>
    rw [List.mem_cons, not_or] at oneLine
    rw [withReturns_cons (Ne.symm oneLine.1), ih oneLine.2]

theorem mem_withReturns {char : Char} {text : List Char} (mem : char ∈ withReturns text) :
    char ∈ text ∨ char = '\r' := by
  rcases List.mem_flatMap.1 mem with ⟨first, memText, memFirst⟩
  split at memFirst
  · rename_i isLine
    rcases List.mem_cons.1 memFirst with isReturn | memLine
    · exact .inr isReturn
    · rw [List.mem_singleton] at memLine
      rw [memLine, ← isLine]
      exact .inl memText
  · rw [List.mem_singleton] at memFirst
    rw [memFirst]
    exact .inl memText

theorem withReturns_eq_nil {text : List Char} : withReturns text = [] ↔ text = [] := by
  constructor
  · intro isEmpty
    cases text with
    | nil => rfl
    | cons char rest =>
      by_cases isLine : char = '\n'
      · rw [isLine, withReturns_line] at isEmpty
        cases isEmpty
      · rw [withReturns_cons isLine] at isEmpty
        cases isEmpty
  · rintro rfl
    rfl

/-- Of a text and what stands behind its beginning, the longer one is longer with returns. -/
theorem length_withReturns_lt_iff {rest text : List Char} (isSuffix : rest <:+ text) :
    (withReturns rest).length < (withReturns text).length ↔ rest.length < text.length := by
  rcases isSuffix with ⟨part, rfl⟩
  have nonempty : withReturns part = [] ↔ part = [] := withReturns_eq_nil
  rw [← List.length_eq_zero_iff, ← List.length_eq_zero_iff] at nonempty
  simp only [withReturns_append, List.length_append]
  omega

/-- A run of a class has returns where it has line feeds, and no other ones. -/
theorem run_withReturns {isInside : Char → Bool} (alike : isInside '\r' = isInside '\n')
    (text : List Char) :
    (withReturns text).takeWhile isInside = withReturns (text.takeWhile isInside) ∧
      (withReturns text).dropWhile isInside = withReturns (text.dropWhile isInside) := by
  induction text with
  | nil => exact ⟨rfl, rfl⟩
  | cons char rest ih =>
    by_cases isLine : char = '\n'
    · subst isLine
      cases inside : isInside '\n' with
      | true => simp [withReturns_line, alike, inside, ih]
      | false => simp [withReturns_line, alike, inside]
    · cases inside : isInside char with
      | true => simp [withReturns_cons isLine, inside, ih]
      | false => simp [withReturns_cons isLine, inside]

theorem dropEndWhile_withReturns {isDropped : Char → Bool} (alike : isDropped '\r' = isDropped '\n')
    (text : List Char) :
    dropEndWhile isDropped (withReturns text) = withReturns (dropEndWhile isDropped text) := by
  induction text with
  | nil => rfl
  | cons char rest ih =>
    by_cases isLine : char = '\n'
    · subst isLine
      rw [withReturns_line, dropEndWhile, dropEndWhile, dropEndWhile, ih, alike]
      cases kept : dropEndWhile isDropped rest with
      | nil => cases isDropped '\n' <;> rfl
      | cons first more =>
        cases wide : withReturns (first :: more) with
        | nil => simp [withReturns_eq_nil] at wide
        | cons other others => simp only [withReturns_line, wide]
    · rw [withReturns_cons isLine, dropEndWhile, dropEndWhile, ih]
      cases kept : dropEndWhile isDropped rest with
      | nil => cases isDropped char <;> simp [withReturns_cons isLine]
      | cons first more =>
        cases wide : withReturns (first :: more) with
        | nil => simp [withReturns_eq_nil] at wide
        | cons other others => simp only [withReturns_cons isLine, wide]

/-- A text may be trimmed before or after its line feeds get returns. -/
theorem trim_withReturns (text : List Char) :
    trim (withReturns text) = withReturns (trim text) := by
  rw [trim, trim, (run_withReturns rfl text).2, dropEndWhile_withReturns rfl]

/-- A text may be cut, at a character of no line end, before or after its line feeds get returns. -/
theorem splitOn_withReturns {separator : Char} (noReturn : separator ≠ '\r')
    (noLine : separator ≠ '\n') (text : List Char) :
    splitOn separator (withReturns text) = (splitOn separator text).map withReturns := by
  induction text with
  | nil => rfl
  | cons char rest ih =>
    have cutRest := splitOn_ne_nil separator rest
    by_cases isLine : char = '\n'
    · subst isLine
      rw [withReturns_line, splitOn, splitOn, splitOn, if_neg noReturn.symm, if_neg noLine.symm,
        if_neg noLine.symm, ih]
      cases cut : splitOn separator rest with
      | nil => exact absurd cut cutRest
      | cons piece pieces => simp [withReturns_line]
    · rw [withReturns_cons isLine, splitOn, splitOn, ih]
      by_cases isSeparator : char = separator
      · simp [isSeparator]
      · rw [if_neg isSeparator, if_neg isSeparator]
        cases cut : splitOn separator rest with
        | nil => exact absurd cut cutRest
        | cons piece pieces => simp [withReturns_cons isLine]

/-- The lines of both texts are the same, but for returns at their ends. -/
theorem lines_withReturns (text : List Char) :
    List.Forall₂ (fun line other => other = line ∨ other = line ++ ['\r'])
      (splitOn '\n' text) (splitOn '\n' (withReturns text)) := by
  induction text with
  | nil => exact .cons (.inl rfl) .nil
  | cons char rest ih =>
    by_cases isLine : char = '\n'
    · subst isLine
      simpa [withReturns_line, splitOn] using ih
    · rw [withReturns_cons isLine, splitOn, splitOn, if_neg isLine, if_neg isLine]
      revert ih
      generalize splitOn '\n' rest = lines, splitOn '\n' (withReturns rest) = others
      rintro (_ | ⟨first, more⟩)
      · exact .cons (.inl rfl) .nil
      · refine .cons ?_ more
        rcases first with rfl | rfl
        · exact .inl rfl
        · exact .inr rfl

variable {Result : Type} (read : List Char → Result)

/-- What only depends on a line when it is trimmed is read of the lines of both texts. -/
theorem map_lines_withReturns
    (trimmed : ∀ line other, trim line = trim other → read line = read other)
    (text : List Char) :
    (splitOn '\n' (withReturns text)).map read = (splitOn '\n' text).map read := by
  have lines := lines_withReturns text
  revert lines
  generalize splitOn '\n' text = first, splitOn '\n' (withReturns text) = second
  intro lines
  induction lines with
  | nil => rfl
  | @cons line other _ _ same _ ih =>
    have sameRead : read other = read line := by
      apply trimmed
      rcases same with rfl | rfl
      · rfl
      · exact trim_append_spaces (by decide) line
    rw [List.map_cons, List.map_cons, sameRead, ih]

/-- No piece between commas goes on in another line. -/
def HasPlainPieces (text : List Char) : Prop := ∀ piece ∈ splitOn ',' text, '\n' ∉ trim piece

instance (text : List Char) : Decidable (HasPlainPieces text) :=
  inferInstanceAs (Decidable (∀ piece ∈ splitOn ',' text, '\n' ∉ trim piece))

/-- What only depends on a piece when it is trimmed is read of the pieces of both texts, unless one
of them goes on in another line. -/
theorem map_pieces_withReturns
    (trimmed : ∀ piece other, trim piece = trim other → read piece = read other)
    {text : List Char} (plain : HasPlainPieces text) :
    (splitOn ',' (withReturns text)).map read = (splitOn ',' text).map read := by
  rw [splitOn_withReturns (by decide) (by decide), List.map_map]
  refine List.map_congr_left fun piece mem => trimmed _ _ ?_
  rw [trim_withReturns, withReturns_of_not_mem (plain piece mem)]

end Schemagram.Text
