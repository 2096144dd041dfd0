import Schemagram.Screen.Width
import Schemagram.Text.Piece

/-!
# Lines of limited width

A text is broken into lines between words, where a word takes the white space behind it along.  A
word that is wider than a line is folded over several ones, or stands on a line of its own that is
cut.

Lines are then aligned: left as they are, filled up with blanks, or centred.
-/

namespace Schemagram.Screen

open Text (isSpace dropEndWhile splitOn)

/-- What becomes of a word that is wider than a line. -/
inductive Overflow where
  | fold
  | ellipsis
  deriving DecidableEq, Repr

/-- How lines are aligned. -/
inductive Alignment where
  | none
  | left
  | center
  deriving DecidableEq, Repr

/-! ### Words -/

/-- The words of a text, each with the white space behind it and the first also with that before it.
White space alone has none. -/
def words (text : List Char) : List (List Char) :=
  let before := text.takeWhile isSpace
  match _found : text.dropWhile isSpace with
  | [] => []
  | first :: more =>
    let inside := more.takeWhile (!isSpace ·)
    let rest := more.dropWhile (!isSpace ·)
    (before ++ first :: inside ++ rest.takeWhile isSpace) :: words (rest.dropWhile isSpace)
termination_by text.length
decreasing_by
  have shorter (isDropped : Char → Bool) (text : List Char) :
      (text.dropWhile isDropped).length ≤ text.length :=
  (List.dropWhile_sublist isDropped).length_le
  have := shorter isSpace text
  have := shorter isSpace (more.dropWhile (!isSpace ·))
  have := shorter (!isSpace ·) more
  rw [_found, List.length_cons] at *
  omega

/-- Puts a character before the first of some lines. -/
def putFirst (char : Char) : List (List Char) → List (List Char)
  | [] => [[char]]
  | line :: lines => (char :: line) :: lines

/-- Breaks a text between any two characters into pieces that fit into a line, of which some columns
are taken already. -/
def chopBehind (columns : Nat) (taken : Nat) : List Char → List (List Char)
  | [] => [[]]
  | char :: rest =>
    if columns < taken + charWidth char then
      [] :: putFirst char (chopBehind columns (charWidth char) rest)
    else putFirst char (chopBehind columns (taken + charWidth char) rest)

theorem dropSpaces_twice (text : List Char) :
    (text.dropWhile isSpace).dropWhile isSpace = text.dropWhile isSpace := by
  induction text with
  | nil => rfl
  | cons char rest ih => by_cases space : isSpace char <;> simp [space, ih]

/-- The words of a text make up the text, unless it is white space alone. -/
theorem flatten_words {text : List Char} (some_word : words text ≠ []) :
    (words text).flatten = text := by
  fun_induction words text with
  | case1 => exact absurd rfl some_word
  | case2 text before first more found inside rest ih =>
    have behind : (rest.takeWhile isSpace) ++ (words (rest.dropWhile isSpace)).flatten = rest := by
      by_cases last : words (rest.dropWhile isSpace) = []
      · have blank : rest.dropWhile isSpace = [] := by
          rw [words] at last
          split at last
          · rename_i none_left
            exact (dropSpaces_twice rest).symm.trans none_left
          · exact absurd last (by simp)
        rw [last, List.flatten_nil, List.append_nil]
        calc rest.takeWhile isSpace
            = rest.takeWhile isSpace ++ rest.dropWhile isSpace := by rw [blank, List.append_nil]
          _ = rest := List.takeWhile_append_dropWhile
      · rw [ih last, List.takeWhile_append_dropWhile]
    calc ((before ++ first :: inside ++ rest.takeWhile isSpace) ::
            words (rest.dropWhile isSpace)).flatten
        = before ++ first :: (inside ++ (rest.takeWhile isSpace ++
            (words (rest.dropWhile isSpace)).flatten)) := by simp
      _ = before ++ first :: more := by
        rw [behind]
        exact congrArg (fun tail => before ++ first :: tail) List.takeWhile_append_dropWhile
      _ = text := by
        rw [← found]
        exact List.takeWhile_append_dropWhile

/-! ### Breaking -/

/-- Lines in the making: those that are complete, and the one that the next word may join. -/
structure Draft where
  done : List (List Char)
  current : List Char
  /-- The columns that the current line has taken. -/
  taken : Nat

namespace Draft

/-- Completes the current line if there is something on it. -/
def close (draft : Draft) : List (List Char) :=
  if draft.current.isEmpty then draft.done else draft.done ++ [draft.current]

/-- Puts a word where there is room for it. -/
def add (overflow : Overflow) (columns : Nat) (draft : Draft) (word : List Char) : Draft :=
  let size := width (dropEndWhile isSpace word)
  if draft.taken + size ≤ columns then
    ⟨draft.done, draft.current ++ word, draft.taken + width word⟩
  else if columns < size && overflow = .fold then
    let pieces := chopBehind columns 0 word
    let last := pieces.getLastD []
    ⟨draft.close ++ pieces.dropLast, last, width last⟩
  else ⟨draft.close, word, width word⟩

end Draft

def breakLine (overflow : Overflow) (columns : Nat) (text : List Char) : List (List Char) :=
  match words text with
  | [] => [text]
  | words =>
    let draft := words.foldl (Draft.add overflow columns) ⟨[], [], 0⟩
    draft.done ++ [draft.current]

/-! ### Shaping -/

/-- Replaces tabs by blanks up to the next of the columns that are a multiple of eight, behind as
many columns. -/
def expandTabs (taken : Nat) : List Char → List Char
  | [] => []
  | char :: rest =>
    if char = '\t' then
      let more := (8 - (taken + 1) % 8) % 8
      blanks (1 + more) ++ expandTabs (taken + 1 + more) rest
    else char :: expandTabs (taken + charWidth char) rest

/-- Drops white space at the end of a line as far as the line has more characters than columns. -/
def dropExcess (columns : Nat) (line : List Char) : List Char :=
  let spaces := line.length - (dropEndWhile isSpace line).length
  line.take (line.length - min spaces (line.length - columns))

/-- A line cut to a number of columns if it is wider. -/
def limit (overflow : Overflow) (columns : Nat) (line : List Char) : List Char :=
  if width line ≤ columns then line
  else
    match overflow with
    | .fold => cut columns line
    | .ellipsis => cut (columns - 1) line ++ ['…']

/-- A line aligned in a number of columns. -/
def align (alignment : Alignment) (overflow : Overflow) (columns : Nat) (line : List Char) :
    List Char :=
  match alignment with
  | .none => limit overflow columns line
  | .left => padEnd columns (limit overflow columns line)
  | .center =>
    let line := limit overflow columns (dropEndWhile isSpace line)
    padEnd columns (blanks ((columns - width line) / 2) ++ line)

/-- The lines of a text in a number of columns. -/
def wrap (alignment : Alignment) (overflow : Overflow) (columns : Nat) (text : List Char) :
    List (List Char) :=
  (splitOn '\n' text).flatMap fun line =>
    (breakLine overflow columns (expandTabs 0 line)).map fun line =>
      align alignment overflow columns (dropExcess columns line)

end Schemagram.Screen
