import Schemagram.Proofs.Blocks.Markers

/-!
# Lines are read as they are written

A block is cut at its line ends, and what is left of a line without the white space around it is the
item that is written on it.  A column is read from the beginning of its line: its name, its type,
and its options up to the last bracket.
-/

namespace Schemagram.Blocks

open Text Writing
open Scan hiding keyword mark

variable {text : List Char}

/-! ### Lines -/

/-- A text that is left of a line when the white space around it is gone. -/
structure IsLine (text : List Char) : Prop where
  nonempty : text ≠ []
  oneLine : '\n' ∉ text
  trimmed : trim text = text

theorem linesOf_append (first rest : List Char) :
    linesOf (first ++ '\n' :: rest) = linesOf first ++ linesOf rest := by
  rw [linesOf, splitOn_append, List.map_append, List.filter_append, linesOf, linesOf]

/-- White space before the lines makes no difference. -/
theorem linesOf_blanks_append {before : List Char} (isBefore : before ∈ blanks) (rest : List Char) :
    linesOf (before ++ rest) = linesOf rest := by
  induction before with
  | nil => rfl
  | cons char more ih =>
    rw [← ih fun other mem => isBefore other (List.mem_cons_of_mem char mem), List.cons_append]
    have isSpaces : ∀ other ∈ [char], isSpace other = true := by
      simp [isBefore char List.mem_cons_self]
    by_cases isEnd : char = '\n'
    · rw [isEnd]
      exact linesOf_append [] (more ++ rest)
    · have free : '\n' ∉ [char] := by simpa using Ne.symm isEnd
      rcases splitOn_append_of_not_mem free (more ++ rest) with ⟨piece, pieces, cut, cutMore⟩
      rw [List.singleton_append] at cutMore
      rw [linesOf, linesOf, cutMore, cut, List.map_cons, List.map_cons, trim_spaces_append isSpaces]

theorem linesOf_blanks {before : List Char} (isBefore : before ∈ blanks) : linesOf before = [] := by
  rw [← List.append_nil before, linesOf_blanks_append isBefore]
  rfl

/-- A line without a line end is left when the white space behind it is gone. -/
theorem linesOf_line {after : List Char} (isLine : IsLine text) (isAfter : after ∈ blanks) :
    linesOf (text ++ after) = [text] := by
  rcases splitOn_append_of_not_mem isLine.oneLine after with ⟨piece, pieces, cut, cutLine⟩
  have noLines := linesOf_blanks isAfter
  have isPiece : ∀ char ∈ piece, isSpace char = true := by
    intro char mem
    apply isAfter char (mem_of_mem_splitOn (_ : piece ∈ splitOn '\n' after) mem)
    rw [cut]
    exact List.mem_cons_self
  have noPiece : trim piece = [] := by
    rw [← List.append_nil piece, trim_spaces_append isPiece]
    rfl
  rw [linesOf, cut, List.map_cons, noPiece] at noLines
  rw [linesOf, cutLine, List.map_cons, trim_append_spaces isPiece, isLine.trimmed]
  simpa [isLine.nonempty] using noLines

/-- The lines of a block are the items that are written on them. -/
theorem linesOf_onLines {Item : Type} {language : Item → Language Char} {items : List Item}
    (areLines : ∀ item ∈ items, ∀ text ∈ language item, IsLine text)
    (written : text ∈ onLines (items.map language)) :
    List.Forall₂ (fun item line => line ∈ language item) items (linesOf text) := by
  induction items generalizing text with
  | nil =>
    rw [linesOf_blanks written]
    exact .nil
  | cons first more ih =>
    have isFirst := areLines first List.mem_cons_self
    cases more with
    | nil =>
      rcases Language.mem_mul.1 written with ⟨before, isBefore, _, inner, rfl⟩
      rcases Language.mem_mul.1 inner with ⟨line, isWritten, after, isAfter, rfl⟩
      rw [linesOf_blanks_append isBefore, linesOf_line (isFirst line isWritten) isAfter]
      exact .cons isWritten .nil
    | cons second more =>
      rcases Language.mem_mul.1 written with ⟨before, isBefore, _, inner, rfl⟩
      rcases Language.mem_mul.1 inner with ⟨line, isWritten, _, behindLine, rfl⟩
      rcases Language.mem_mul.1 behindLine with ⟨after, isAfter, _, behindGap, rfl⟩
      rcases Language.mem_mul.1 behindGap with ⟨_, rfl, others, isOthers, rfl⟩
      have cut : before ++ (line ++ (after ++ (['\n'] ++ others))) =
          before ++ ((line ++ after) ++ '\n' :: others) := by simp
      rw [cut, linesOf_blanks_append isBefore, linesOf_append,
        linesOf_line (isFirst line isWritten) isAfter]
      exact .cons isWritten
        (ih (fun item mem => areLines item (List.mem_cons_of_mem first mem)) isOthers)

/-- Lines that are read one by one give the values of their items. -/
theorem filterMap_eq_of_forall₂ {Item Value : Type} {related : Item → List Char → Prop}
    {read : List Char → Option Value} {value? : Item → Option Value} {items : List Item}
    {lines : List (List Char)} (areRelated : List.Forall₂ related items lines)
    (reads : ∀ item ∈ items, ∀ line, related item line → read line = value? item) :
    lines.filterMap read = items.filterMap value? := by
  induction areRelated with
  | nil => rfl
  | cons isFirst _ ih =>
    rw [List.filterMap_cons, List.filterMap_cons, reads _ List.mem_cons_self _ isFirst,
      ih fun item mem => reads item (List.mem_cons_of_mem _ mem)]

/-! ### Columns -/

/-- A line whose column can be said, and whose target is a column of a table. -/
structure Line.IsReadable (isType : List Char → Prop) (line : Line) : Prop where
  name : IsWord line.column.name.toList
  type : isType line.column.type.toList
  target : ∀ target ∈ line.target?, IsWord target.1.toList ∧ IsWord target.2.toList

theorem Line.IsReadable.areNamed {isType : List Char → Prop} {line : Line}
    (isReadable : line.IsReadable isType) :
    ∀ setting ∈ line.settings, setting.IsNamed := by
  intro setting mem
  rcases List.mem_append.1 mem with mem | mem
  · rcases List.mem_append.1 mem with mem | mem <;> split at mem <;> simp_all [Setting.IsNamed]
  · rcases List.mem_map.1 mem with ⟨target, memTarget, rfl⟩
    exact isReadable.target target (Option.mem_toList.1 memTarget)

theorem primaryKey_mem_settings {line : Line} :
    .primaryKey ∈ line.settings ↔ line.column.isPrimaryKey = true := by
  cases isKey : line.column.isPrimaryKey <;> cases isNull : line.column.isNullable <;>
    simp [Line.settings, isKey, isNull]

theorem notNull_mem_settings {line : Line} : .notNull ∈ line.settings ↔
    line.column.isNullable = false := by
  cases isKey : line.column.isPrimaryKey <;> cases isNull : line.column.isNullable <;>
    simp [Line.settings, isKey, isNull]

theorem target_mem_settings {line : Line} {table column : String} :
    .target table column ∈ line.settings ↔ line.target? = some (table, column) := by
  cases isKey : line.column.isPrimaryKey <;> cases isNull : line.column.isNullable <;>
    simp [Line.settings, isKey, isNull]

/-- Options run to the last bracket. -/
theorem options_append (inside : List Char) :
    options ('[' :: (inside ++ [']'])) = some (inside, []) := by
  have kept : dropEndWhile (· ≠ ']') (inside ++ [']']) = inside ++ [']'] :=
    dropEndWhile_of_getLast? (by simp)
  simp only [options, bind_eq_some]
  refine ⟨(), _, mark_cons '[' _, ?_⟩
  simp only [kept, List.dropLast_concat]
  simp

theorem options_nil : options [] = none := rfl

/-- The options of a column, if there are any, are brackets around its settings. -/
theorem exists_of_mem_writtenOptions {settings : List Setting}
    (written : text ∈ writtenOptions settings) :
    settings = [] ∧ text = [] ∨
      ∃ gap ∈ blanks, ∃ inside ∈ writtenSettings settings,
      text = gap ++ '[' :: (inside ++ [']']) := by
  unfold writtenOptions at written
  split at written
  · rename_i isEmpty
    exact .inl ⟨List.isEmpty_iff.1 isEmpty, (Language.mem_one _).1 written⟩
  · rcases Language.mem_mul.1 written with ⟨gap, isGap, _, behindGap, rfl⟩
    rcases Language.mem_mul.1 behindGap with ⟨_, rfl, _, behindBracket, rfl⟩
    rcases Language.mem_mul.1 behindBracket with ⟨inside, isInside, _, rfl, rfl⟩
    exact .inr ⟨gap, isGap, inside, isInside, by simp⟩

/-- The options of a column are read as they are written, and tell its settings. -/
theorem options_read {settings : List Setting} (areNamed : ∀ setting ∈ settings, setting.IsNamed)
    (written : text ∈ writtenOptions settings) :
    ∃ gap rest found, text = gap ++ rest ∧ gap ∈ blanks ∧ Ends isSpace rest ∧ Ends isWord rest ∧
      Ends (· = '(') rest ∧ (options <|> pure []) rest = some (found, []) ∧
      (Markers.isPrimaryKey found = true ↔ .primaryKey ∈ settings) ∧
      (Markers.isNotNull found = true ↔ .notNull ∈ settings) := by
  rcases exists_of_mem_writtenOptions written with ⟨rfl, rfl⟩ | ⟨gap, isGap, inside, isInside, rfl⟩
  · refine ⟨[], [], [], rfl, nil_mem_blanks, ends_nil _, ends_nil _, ends_nil _, ?_, ?_⟩
    · exact orElse_eq_some.2 (.inr ⟨options_nil, rfl⟩)
    · simp only [List.not_mem_nil]
      decide
  · exact ⟨gap, _, inside, rfl, isGap, ends_cons.2 (by decide), ends_cons.2 (by decide),
      ends_cons.2 (by decide),
      orElse_eq_some.2 (.inl (options_append inside)), markers_writtenSettings areNamed isInside⟩

/-- A column is read from the beginning of its line to the end. -/
theorem column_append {isType : List Char → Prop} {precision : Scan (List Char)}
    (readsTypes : ReadsTypes isType precision) (areTypes : ∀ type, isType type → IsType type)
    {line : Line} (isReadable : line.IsReadable isType) (written : text ∈ line.written) :
    Scan.column precision text = some (line.column.withoutEnum, []) := by
  rcases written with ⟨written, _⟩
  rcases Language.mem_mul.1 written with ⟨_, rfl, _, behindName, rfl⟩
  rcases Language.mem_mul.1 behindName with ⟨gap, isGap, _, behindGap, rfl⟩
  rcases Language.mem_mul.1 behindGap with ⟨_, rfl, last, isLast, rfl⟩
  rcases options_read isReadable.areNamed isLast with
    ⟨before, rest, found, rfl, isBefore, endsSpace, endsWord, endsSize, readOptions,
      isKey, isNotNull⟩
  rw [primaryKey_mem_settings] at isKey
  rw [notNull_mem_settings] at isNotNull
  have noSize (char : Char) (space : isSpace char = true) : (decide (char = '(')) = false := by
    rw [decide_eq_false_iff_not]
    rintro rfl
    cases space
  simp only [Scan.column, bind_eq_some, pure_eq_some]
  refine ⟨line.column.name, _,
    word_append isReadable.name (ends_blank (fun _ => isWord_of_isSpace) isGap), (), _,
    someSpaces_append isGap (areTypes _ isReadable.type).ends, line.column.type, _,
    readsTypes isReadable.type (ends_blanks (fun _ => isWord_of_isSpace) isBefore endsWord)
      (ends_blanks noSize isBefore endsSize), (), _, spaces_append isBefore endsSpace, found, [],
      readOptions,
    ?_, rfl⟩
  rw [Bool.eq_iff_iff.2 isKey, Column.withoutEnum]
  cases isNullable : line.column.isNullable <;> simp_all

/-- What is left of a line with a column is the column. -/
theorem isLine_written {isType : List Char → Prop} (areTypes : ∀ type, isType type → IsType type)
    {line : Line} (isReadable : line.IsReadable isType) (written : text ∈ line.written) :
    IsLine text := by
  rcases written with ⟨written, oneLine⟩
  rcases Language.mem_mul.1 written with ⟨_, rfl, _, behindName, rfl⟩
  rcases Language.mem_mul.1 behindName with ⟨gap, _, _, behindGap, rfl⟩
  rcases Language.mem_mul.1 behindGap with ⟨_, rfl, last, isLast, rfl⟩
  have isType := areTypes _ isReadable.type
  have firmLast : Firm last := by
    rcases exists_of_mem_writtenOptions isLast with ⟨_, rfl⟩ | ⟨before, _, inside, _, rfl⟩
    · simp [Firm]
    · have closed := firm_append_singleton (before ++ '[' :: inside)
        (by decide : isSpace ']' = false)
      simpa using closed
  have firmEnd : Firm (line.column.type.toList ++ last) := firmLast.append fun _ => isType.firm
  have firm : Firm (line.column.name.toList ++ (gap ++ (line.column.type.toList ++ last))) :=
    (firmEnd.append (by simp [isType.ne_nil])).append (by simp [isType.ne_nil])
  exact ⟨by simp [isReadable.name.1], oneLine,
    trim_eq_self (ends_isSpace_of_isWord isReadable.name) firm⟩

/-- What holds of white space, of line ends and of items, and of two languages together, holds of
lines. -/
theorem onLines_of_mul {property : Language Char → Prop}
    (mul : ∀ {first second}, property first → property second → property (first * second))
    (spaces : property blanks) (lineEnd : property (mark '\n')) {items : List (Language Char)}
    (each : ∀ item ∈ items, property item) : property (onLines items) := by
  induction items with
  | nil => exact spaces
  | cons first more ih =>
    have isFirst := each first List.mem_cons_self
    cases more with
    | nil => exact mul spaces (mul isFirst spaces)
    | cons second more =>
      have others := ih fun item mem => each item (List.mem_cons_of_mem first mem)
      exact mul spaces (mul isFirst (mul spaces (mul lineEnd others)))

/-! ### Characters of a line -/

/-- The characters of columns and of markers. -/
def isPlain (char : Char) : Bool :=
  isWord char || isSpace char || isDecimal char || char ∈ ['(', ',', ')', '[', ']']

/-- The marks of a reference in the options of a column. -/
def targetMarks : List Char := [':', '>', '.']

section Free

variable {chars : List Char} (outside : ∀ char ∈ chars, isPlain char = false)

include outside

theorem free_name {name : String} (named : IsWord name.toList) : Free chars (exactly name.toList) :=
  free_exactly outside fun char mem => by simp [isPlain, named.2 char mem]

theorem free_spaces : Free chars blanks := by
  apply free_blanks
  intro char isMark
  have isOut := outside char isMark
  simp only [isPlain, Bool.or_eq_false_iff] at isOut
  exact isOut.1.1.2

theorem free_plainMark {char : Char} (inPlain : isPlain char = true) : Free chars (mark char) := by
  apply free_mark
  intro isMark
  rw [outside char isMark] at inPlain
  cases inPlain

theorem free_marker {name : String}
    (letters : ∀ letter ∈ name.toList, (isWord letter || isSpace letter) = true) :
    Free chars (keyword name) := by
  refine free_letters (fun char => isWord char || isSpace char) ?_ ?_ letters
  · intro char
    rw [isWord_small, isSpace_small]
  · intro char isMark
    have isOut := outside char isMark
    simp only [isPlain, Bool.or_eq_false_iff] at isOut ⊢
    exact isOut.1.1

theorem free_setting {setting : Setting} (isNamed : setting.IsNamed)
    (noMarks : (∃ table column, setting = .target table column) → ∀ char ∈ chars,
      char ∉ targetMarks) :
    Free chars setting.written := by
  cases setting with
  | primaryKey => exact (free_marker outside (by decide)).add (free_marker outside (by decide))
  | notNull => exact (free_marker outside (by decide)).add (free_marker outside (by decide))
  | target table column =>
    have spaces := free_spaces outside
    have marks {char : Char} (isMark : char ∈ targetMarks) : Free chars (mark char) :=
      free_mark fun mem => noMarks ⟨table, column, rfl⟩ char mem isMark
    have dotted := (free_name outside isNamed.1).mul
      ((marks (by decide : '.' ∈ targetMarks)).mul (free_name outside isNamed.2))
    have arrow := (marks (by decide : '>' ∈ targetMarks)).mul (spaces.mul dotted)
    have colon := (marks (by decide : ':' ∈ targetMarks)).mul (spaces.mul arrow)
    have free := (free_marker outside (by decide : ∀ letter ∈ "ref".toList, _)).mul
      (spaces.mul colon)
    exact fun text written => free text written.2.2

theorem free_options {settings : List Setting} (areNamed : ∀ setting ∈ settings, setting.IsNamed)
    (noMarks : (∃ table column, .target table column ∈ settings) → ∀ char ∈ chars,
      char ∉ targetMarks) :
    Free chars (writtenOptions settings) := by
  have inside : Free chars (writtenSettings settings) := by
    rintro text ⟨order, isOrder, written⟩
    apply listed_of_mul Free.mul (fun _ empty => nomatch empty) (free_spaces outside)
      (free_plainMark outside (by decide)) _ text written
    intro language mem
    rcases List.mem_map.1 mem with ⟨setting, memOrder, rfl⟩
    have memSettings := isOrder.mem_iff.1 memOrder
    apply free_setting outside (areNamed setting memSettings)
    rintro ⟨table, column, rfl⟩
    exact noMarks ⟨table, column, memSettings⟩
  unfold writtenOptions
  split
  · exact free_one
  · exact (free_spaces outside).mul ((free_plainMark outside (by decide)).mul
      (inside.mul (free_plainMark outside (by decide))))

theorem free_line {isType : List Char → Prop} (areTypes : ∀ type, isType type → IsType type)
    {line : Line} (isReadable : line.IsReadable isType)
    (noMarks : line.target?.isSome = true → ∀ char ∈ chars, char ∉ targetMarks) :
    Free chars line.written := by
  have typed : Free chars (exactly line.column.type.toList) := by
    apply (areTypes _ isReadable.type).free
    intro char isMark
    have isOut := outside char isMark
    simp only [isPlain, Bool.or_eq_false_iff] at isOut ⊢
    refine ⟨⟨isOut.1.1.1, isOut.1.2⟩, ?_⟩
    rw [decide_eq_false_iff_not]
    intro mem
    refine absurd isOut.2 ?_
    rw [decide_eq_false_iff_not, not_not]
    exact (by decide : ∀ char ∈ ['(', ',', ')'], char ∈ ['(', ',', ')', '[', ']']) char mem
  have options : Free chars (writtenOptions line.settings) := by
    apply free_options outside isReadable.areNamed
    rintro ⟨table, column, mem⟩
    apply noMarks
    rw [target_mem_settings.1 mem]
    rfl
  have spaces : Free chars blank := fun text written => free_spaces outside text written.2
  have free := (free_name outside isReadable.name).mul (spaces.mul (typed.mul options))
  exact fun text written => free text written.1

theorem free_onLines {items : List (Language Char)} (free : ∀ item ∈ items, Free chars item) :
    Free chars (onLines items) :=
  onLines_of_mul Free.mul (free_spaces outside) (free_plainMark outside (by decide)) free

end Free

end Schemagram.Blocks
