import Schemagram.Text.CharClass

/-!
# Cutting and trimming text

Pieces of a text between separators, and a text without the white space at its ends.
-/

namespace Schemagram.Text

/-- The pieces between the occurrences of a separator; there is always at least one. -/
def splitOn (separator : Char) : List Char → List (List Char)
  | [] => [[]]
  | char :: rest =>
    if char = separator then [] :: splitOn separator rest
    else match splitOn separator rest with
      | [] => [[char]]
      | piece :: pieces => (char :: piece) :: pieces

/-- Drops the longest run of characters of a class at the end. -/
def dropEndWhile (isDropped : Char → Bool) : List Char → List Char
  | [] => []
  | char :: rest =>
    match dropEndWhile isDropped rest with
    | [] => if isDropped char then [] else [char]
    | kept => char :: kept

/-- A text without the white space at its ends. -/
def trim (text : List Char) : List Char := dropEndWhile isSpace (text.dropWhile isSpace)

/-- The pieces put together again with the separator between them. -/
def join (separator : List Char) : List (List Char) → List Char
  | [] => []
  | [piece] => piece
  | piece :: pieces => piece ++ separator ++ join separator pieces

theorem splitOn_ne_nil (separator : Char) (text : List Char) : splitOn separator text ≠ [] := by
  induction text with
  | nil => simp [splitOn]
  | cons char rest ih =>
    unfold splitOn
    split
    · simp
    · split <;> simp

theorem not_mem_join {char : Char} {separator : List Char} {pieces : List (List Char)}
    (noSeparator : char ∉ separator) (inNoPiece : ∀ piece ∈ pieces, char ∉ piece) :
    char ∉ join separator pieces := by
  induction pieces with
  | nil => exact List.not_mem_nil
  | cons first more ih =>
    cases more with
    | nil => exact inNoPiece first List.mem_cons_self
    | cons second more =>
      have others := ih fun piece mem => inNoPiece piece (List.mem_cons_of_mem first mem)
      simp only [join, List.mem_append, not_or]
      exact ⟨⟨inNoPiece first List.mem_cons_self, noSeparator⟩, others⟩

/-- Cutting a text at a separator loses nothing but the separators. -/
theorem join_splitOn (separator : Char) (text : List Char) :
    join [separator] (splitOn separator text) = text := by
  induction text with
  | nil => simp [splitOn, join]
  | cons char rest ih =>
    unfold splitOn
    split
    · rename_i same
      cases parts : splitOn separator rest with
      | nil => exact absurd parts (splitOn_ne_nil separator rest)
      | cons piece pieces => simp [join, same, ← parts, ih]
    · split
      · rename_i parts
        exact absurd parts (splitOn_ne_nil separator rest)
      · rename_i piece pieces parts
        rw [parts] at ih
        cases pieces <;> simp_all [join]

theorem splitOn_of_not_mem {separator : Char} {text : List Char} (free : separator ∉ text) :
    splitOn separator text = [text] := by
  induction text with
  | nil => rfl
  | cons char rest ih =>
    rw [List.mem_cons, not_or] at free
    rw [splitOn, if_neg (Ne.symm free.1), ih free.2]

/-- What is cut at a separator may be cut apart there. -/
theorem splitOn_append (separator : Char) (first rest : List Char) :
    splitOn separator (first ++ separator :: rest) = splitOn separator first ++
      splitOn separator rest := by
  induction first with
  | nil => simp [splitOn]
  | cons char more ih =>
    rw [List.cons_append, splitOn, splitOn, ih]
    split
    · rfl
    · cases pieces : splitOn separator more with
      | nil => exact absurd pieces (splitOn_ne_nil separator more)
      | cons piece others => rfl

theorem splitOn_append_cons {separator : Char} {first : List Char} (free : separator ∉ first)
    (rest : List Char) :
    splitOn separator (first ++ separator :: rest) = first :: splitOn separator rest := by
  rw [splitOn_append, splitOn_of_not_mem free]
  rfl

/-- A part without the separator belongs to the first piece. -/
theorem splitOn_append_of_not_mem {separator : Char} {first : List Char} (free : separator ∉ first)
    (rest : List Char) : ∃ piece pieces, splitOn separator rest = piece :: pieces ∧
      splitOn separator (first ++ rest) = (first ++ piece) :: pieces := by
  induction first with
  | nil =>
    cases pieces : splitOn separator rest with
    | nil => exact absurd pieces (splitOn_ne_nil separator rest)
    | cons piece others => exact ⟨piece, others, rfl, pieces⟩
  | cons char more ih =>
    rw [List.mem_cons, not_or] at free
    rcases ih free.2 with ⟨piece, pieces, cut, cutMore⟩
    refine ⟨piece, pieces, cut, ?_⟩
    rw [List.cons_append, splitOn, if_neg (Ne.symm free.1), cutMore]
    rfl

theorem mem_of_mem_splitOn {separator char : Char} {text piece : List Char}
    (isPiece : piece ∈ splitOn separator text) (mem : char ∈ piece) : char ∈ text := by
  induction text generalizing piece with
  | nil =>
    rw [splitOn, List.mem_singleton] at isPiece
    rwa [← isPiece]
  | cons first rest ih =>
    rw [splitOn] at isPiece
    split at isPiece
    · rcases List.mem_cons.1 isPiece with rfl | isPiece
      · cases mem
      · exact List.mem_cons_of_mem _ (ih isPiece mem)
    · split at isPiece
      · rw [List.mem_singleton] at isPiece
        subst isPiece
        rw [List.mem_singleton] at mem
        rw [mem]
        exact List.mem_cons_self
      · rename_i front pieces cut
        rcases List.mem_cons.1 isPiece with rfl | isPiece
        · rcases List.mem_cons.1 mem with rfl | mem
          · exact List.mem_cons_self
          · exact List.mem_cons_of_mem _ (ih (by rw [cut]; exact List.mem_cons_self) mem)
        · exact List.mem_cons_of_mem _ (ih (by rw [cut]; exact List.mem_cons_of_mem _ isPiece) mem)

theorem dropEndWhile_run {isDropped : Char → Bool} {text : List Char}
    (isRun : ∀ char ∈ text, isDropped char = true) : dropEndWhile isDropped text = [] := by
  induction text with
  | nil => rfl
  | cons char rest ih =>
    rw [dropEndWhile, ih fun other mem => isRun other (List.mem_cons_of_mem _ mem)]
    exact if_pos (isRun char List.mem_cons_self)

theorem dropEndWhile_append {isDropped : Char → Bool} {after : List Char}
    (isRun : ∀ char ∈ after, isDropped char = true) (text : List Char) :
    dropEndWhile isDropped (text ++ after) = dropEndWhile isDropped text := by
  induction text with
  | nil => exact dropEndWhile_run isRun
  | cons char rest ih => rw [List.cons_append, dropEndWhile, ih, dropEndWhile]

theorem dropEndWhile_of_getLast? {isDropped : Char → Bool} {text : List Char}
    (kept : ∀ char ∈ text.getLast?, isDropped char = false) :
    dropEndWhile isDropped text = text := by
  induction text with
  | nil => rfl
  | cons char rest ih =>
    rw [dropEndWhile]
    cases rest with
    | nil => simp [dropEndWhile, kept char rfl]
    | cons next more =>
      rw [List.getLast?_cons_cons] at kept
      rw [ih kept]

/-- A text is cut in one way only before the longest run of a class at its end. -/
theorem append_run_inj {isInside : Char → Bool} {first other inside otherInside : List Char}
    (last : ∀ char ∈ first.getLast?, isInside char = false)
    (otherLast : ∀ char ∈ other.getLast?, isInside char = false)
    (isRun : ∀ char ∈ inside, isInside char = true)
    (otherRun : ∀ char ∈ otherInside, isInside char = true)
    (same : first ++ inside = other ++ otherInside) : first = other ∧ inside = otherInside := by
  have kept := congrArg (dropEndWhile isInside) same
  rw [dropEndWhile_append isRun, dropEndWhile_append otherRun, dropEndWhile_of_getLast? last,
    dropEndWhile_of_getLast? otherLast] at kept
  subst kept
  exact ⟨rfl, List.append_cancel_left same⟩

/-- A text is cut in one way only at the first place of a mark. -/
theorem append_cons_inj {mark : Char} {first other rest more : List Char} (free : mark ∉ first)
    (otherFree : mark ∉ other) (same : first ++ mark :: rest = other ++ mark :: more) :
    first = other ∧ rest = more := by
  have isRun : ∀ {text : List Char}, mark ∉ text → ∀ char ∈ text,
      (fun char => decide (char ≠ mark)) char := by
    intro text absent char mem
    rw [decide_eq_true_eq]
    rintro rfl
    exact absent mem
  have taken := congrArg (List.takeWhile fun char => decide (char ≠ mark)) same
  rw [List.takeWhile_append_of_pos (isRun free),
    List.takeWhile_append_of_pos (isRun otherFree)] at taken
  simp only [ne_eq, decide_not, List.takeWhile_cons, decide_true, Bool.not_true, Bool.false_eq_true,
    if_false, List.append_nil] at taken
  subst taken
  rw [List.append_cancel_left_eq, List.cons.injEq] at same
  exact ⟨rfl, same.2⟩

/-- Of two marks one is first. -/
theorem append_cons_ne {mark other : Char} {first second rest more : List Char}
    (different : mark ≠ other) (noOther : other ∉ first) (noMark : mark ∉ second) :
    first ++ mark :: rest ≠ second ++ other :: more := by
  intro same
  rcases List.append_eq_append_iff.1 same with ⟨between, rfl, split⟩ | ⟨between, rfl, split⟩
  · cases between with
    | nil => exact different (List.cons.inj split).1
    | cons char tail =>
      rw [List.cons_append, List.cons.injEq] at split
      rw [← split.1] at noMark
      simp at noMark
  · cases between with
    | nil => exact different (List.cons.inj split).1.symm
    | cons char tail =>
      rw [List.cons_append, List.cons.injEq] at split
      rw [← split.1] at noOther
      simp at noOther

theorem trim_spaces_append {before : List Char} (isBefore : ∀ char ∈ before, isSpace char = true)
    (text : List Char) : trim (before ++ text) = trim text := by
  rw [trim, List.dropWhile_append_of_pos isBefore, trim]

theorem trim_append_spaces {after : List Char} (isAfter : ∀ char ∈ after, isSpace char = true)
    (text : List Char) : trim (text ++ after) = trim text := by
  have nothing : (after ++ []).dropWhile isSpace = [] := List.dropWhile_append_of_pos isAfter
  rw [List.append_nil] at nothing
  rw [trim, trim, List.dropWhile_append]
  split
  · rename_i isEmpty
    rw [nothing, List.isEmpty_iff.1 isEmpty]
  · exact dropEndWhile_append isAfter _

theorem trim_eq_self {text : List Char} (first : ∀ char ∈ text.head?, isSpace char = false)
    (last : ∀ char ∈ text.getLast?, isSpace char = false) : trim text = text := by
  cases text with
  | nil => rfl
  | cons char more =>
    rw [trim, List.dropWhile_cons_of_neg (by simp [first char rfl]), dropEndWhile_of_getLast? last]

/-- Trimming takes white space away, and nothing of a text that has none at its ends. -/
theorem trim_append {before text after : List Char}
    (isBefore : ∀ char ∈ before, isSpace char = true)
    (isAfter : ∀ char ∈ after, isSpace char = true)
    (first : ∀ char ∈ text.head?, isSpace char = false)
    (last : ∀ char ∈ text.getLast?, isSpace char = false) :
    trim (before ++ text ++ after) = text := by
  rw [trim_append_spaces isAfter, trim_spaces_append isBefore, trim_eq_self first last]

end Schemagram.Text
