import Mathlib.Algebra.GroupWithZero.Nat
import Mathlib.Data.List.Zip
import Schemagram.Proofs.Scan.Forms
import Schemagram.Proofs.Scan.Parts
import Schemagram.Screen.Console

/-!
# Cells that stand on one line

A text without line ends, tabs and white space behind it is put on one line as it is, wherever there
is room for it.  Every column of a table has room for its cells.  So such a cell stands as it is on
the first line of its row.
-/

namespace Schemagram.Screen

open Text (isSpace dropEndWhile splitOn)

/-! ### Widths -/

theorem widthBehind_cons (last? : Option Char) (char : Char) (rest : List Char) :
    widthBehind last? (char :: rest) =
      if char = joiner then widthBehind last? (rest.drop 1)
      else if char = pictureSelector then
        (if last?.any fun last => Text.covers pictureRanges last.toNat then 1 else 0) +
          widthBehind none rest
      else charWidth char + widthBehind (if charWidth char = 0 then last? else some char) rest := by
  cases rest <;> simp [widthBehind]

/-- A text is measured character by character, but for the ones that are joined to the one
before. -/
theorem width_induction {motive : List Char → Prop} (text : List Char) (nil : motive [])
    (cons : ∀ char rest, motive rest → motive (rest.drop 1) → motive (char :: rest)) :
    motive text := by
  match text with
  | [] => exact nil
  | char :: rest =>
    exact cons char rest (width_induction rest nil cons) (width_induction (rest.drop 1) nil cons)
termination_by text.length

/-- A selector widens nothing if there is nothing before. -/
theorem widthBehind_none_le (last? : Option Char) (text : List Char) :
    widthBehind none text ≤ widthBehind last? text := by
  induction text using width_induction generalizing last? with
  | nil => exact Nat.le_refl _
  | cons char rest ih ihJoined =>
    rw [widthBehind_cons, widthBehind_cons]
    split
    · exact ihJoined last?
    split
    · exact Nat.add_le_add_right (Nat.zero_le _) _
    split
    · exact Nat.add_le_add_left (ih last?) _
    · exact Nat.le_refl _

theorem widthBehind_le_append (last? : Option Char) (first rest : List Char) :
    widthBehind last? first ≤ widthBehind last? (first ++ rest) := by
  induction first using width_induction generalizing last? with
  | nil => exact Nat.zero_le _
  | cons char more ih ihJoined =>
    rw [List.cons_append, widthBehind_cons, widthBehind_cons]
    split
    · cases more with
      | nil => exact Nat.zero_le _
      | cons next more => exact ihJoined last?
    split
    · exact Nat.add_le_add_left (ih none) _
    · exact Nat.add_le_add_left (ih _) _

/-- A text behind white space takes its own width at least. -/
theorem widthBehind_add_le (last? : Option Char) {space : Char} (isSpaceChar : isSpace space = true)
    (first rest : List Char) :
    widthBehind last? (first ++ [space]) + width rest ≤
      widthBehind last? (first ++ space :: rest) := by
  have behind (last? : Option Char) (columns : Nat) :
      columns + widthBehind last? [] + width rest ≤ columns + widthBehind last? rest :=
    Nat.add_le_add_left (widthBehind_none_le last? rest) columns
  induction first using width_induction generalizing last? with
  | nil =>
    have noMark : space ≠ joiner ∧ space ≠ pictureSelector := by
      constructor
      · rintro rfl
        exact absurd isSpaceChar (by decide)
      · rintro rfl
        exact absurd isSpaceChar (by decide)
    rw [List.nil_append, List.nil_append, widthBehind_cons, widthBehind_cons, if_neg noMark.1,
      if_neg noMark.1, if_neg noMark.2, if_neg noMark.2]
    exact behind _ _
  | cons char more ih ihJoined =>
    rw [List.cons_append, List.cons_append, widthBehind_cons, widthBehind_cons]
    split
    · cases more with
      | nil =>
        have joined := behind last? 0
        rwa [Nat.zero_add, Nat.zero_add] at joined
      | cons next more => exact ihJoined last?
    split
    · rw [Nat.add_assoc]
      exact Nat.add_le_add_left (ih none) _
    · rw [Nat.add_assoc]
      exact Nat.add_le_add_left (ih _) _

theorem eq_nil_of_ends {rest : List Char} (ends : Text.Ends (!isSpace ·) rest)
    (noSpace : rest.takeWhile isSpace = []) :
    rest = [] := by
  cases rest with
  | nil => rfl
  | cons char others =>
    rw [Text.ends_cons, Bool.not_eq_false'] at ends
    simp [ends] at noSpace

/-- The words of a text take no more columns than the text. -/
theorem sum_width_words_le (text : List Char) : ((words text).map width).sum ≤ width text := by
  fun_induction words text with
  | case1 => exact Nat.zero_le _
  | case2 text before first more found inside rest ih =>
    have whole : text = before ++ first :: inside ++ rest.takeWhile isSpace ++
        rest.dropWhile isSpace := by
      rw [List.append_assoc, List.takeWhile_append_dropWhile, List.append_assoc, List.cons_append,
        List.takeWhile_append_dropWhile, ← found, List.takeWhile_append_dropWhile]
    rw [List.map_cons, List.sum_cons, whole]
    cases ending : (rest.takeWhile isSpace).reverse with
    | nil =>
      -- White space stands behind every word but the last one.
      rw [List.reverse_eq_nil_iff] at ending
      have noRest : rest = [] := eq_nil_of_ends (Text.ends_dropWhile _ more) ending
      rw [noRest]
      simp [words]
    | cons space others =>
      have isSpaceChar : isSpace space = true := by
        refine List.all_eq_true.1 (List.all_takeWhile (l := rest)) space ?_
        rw [← List.mem_reverse, ending]
        exact List.mem_cons_self
      rw [← List.reverse_reverse (rest.takeWhile isSpace), ending, List.reverse_cons,
        ← List.append_assoc]
      refine (Nat.add_le_add_left ih _).trans ?_
      rw [List.append_assoc _ [space]]
      exact widthBehind_add_le none isSpaceChar _ _


/-- Words for which there is room are put on one line. -/
theorem Draft.foldl_add {columns : Nat} (overflow : Overflow) (words : List (List Char))
    (draft : Draft) (fits : draft.taken + (words.map width).sum ≤ columns) :
    words.foldl (Draft.add overflow columns) draft =
      ⟨draft.done, draft.current ++ words.flatten, draft.taken + (words.map width).sum⟩ := by
  induction words generalizing draft with
  | nil => simp
  | cons word more ih =>
    rw [List.map_cons, List.sum_cons, ← Nat.add_assoc] at fits
    have narrower : width (dropEndWhile isSpace word) ≤ width word := by
      rcases Text.dropEndWhile_isPart isSpace word with ⟨dropped, whole⟩
      conv_rhs => rw [← whole]
      exact widthBehind_le_append none _ dropped
    have added : draft.add overflow columns word =
        ⟨draft.done, draft.current ++ word, draft.taken + width word⟩ := by
      rw [add]
      exact if_pos (by omega)
    rw [List.foldl_cons, added, ih _ fits, List.flatten_cons, List.append_assoc, List.map_cons,
      List.sum_cons, Nat.add_assoc]

/-- A text for which there is room is not broken. -/
theorem breakLine_of_fits {columns : Nat} {text : List Char} (overflow : Overflow)
    (fits : width text ≤ columns) :
    breakLine overflow columns text = [text] := by
  unfold breakLine
  split
  · rfl
  · rename_i nonempty
    have room : 0 + ((words text).map width).sum ≤ columns := by
      rw [Nat.zero_add]
      exact (sum_width_words_le text).trans fits
    rw [Draft.foldl_add overflow (words text) ⟨[], [], 0⟩ room, List.nil_append,
      flatten_words nonempty]
    rfl

theorem le_foldl_max {numbers : List Nat} {number start : Nat}
    (reached : number ≤ start ∨ number ∈ numbers) :
    number ≤ numbers.foldl max start := by
  induction numbers generalizing start with
  | nil => simpa using reached
  | cons first more ih =>
    apply ih
    rcases reached with below | mem
    · exact .inl (below.trans (Nat.le_max_left start first))
    · rcases List.mem_cons.1 mem with rfl | mem
      · exact .inl (Nat.le_max_right start number)
      · exact .inr mem

theorem foldl_max_le {numbers : List Nat} {start bound : Nat} (below : start ≤ bound)
    (allBelow : ∀ number ∈ numbers, number ≤ bound) : numbers.foldl max start ≤ bound :=
  List.foldlRecOn numbers max (motive := (· ≤ bound)) below
    fun _ isBelow number mem => Nat.max_le.2 ⟨isBelow, allBelow number mem⟩

theorem expandTabs_eq_self {text : List Char} (noTab : '\t' ∉ text) (taken : Nat) :
    expandTabs taken text = text := by
  induction text generalizing taken with
  | nil => rfl
  | cons char rest ih =>
    rw [List.mem_cons, not_or] at noTab
    rw [expandTabs, if_neg (Ne.symm noTab.1), ih noTab.2]

namespace IsLine

variable {text : List Char} {columns : Nat}

theorem splitOn_eq (isLine : IsLine text) : splitOn '\n' text = [text] := by
  apply Text.splitOn_of_not_mem
  intro mem
  exact absurd (isLine.unbroken '\n' mem) (by decide)

/-- A line for which there is room is only aligned. -/
theorem wrap_of_fits (isLine : IsLine text) (fits : width text ≤ columns) (alignment : Alignment)
    (overflow : Overflow) :
    wrap alignment overflow columns text = [align alignment overflow columns text] := by
  have noExcess : dropExcess columns text = text := by
    rw [dropExcess, isLine.noSpaceBehind, Nat.sub_self, Nat.zero_min, Nat.sub_zero,
      List.take_length]
  rw [wrap, isLine.splitOn_eq, List.flatMap_singleton, expandTabs_eq_self isLine.noTab,
    breakLine_of_fits overflow fits, List.map_singleton, noExcess]

theorem wrap_left_of_fits (isLine : IsLine text) (fits : width text ≤ columns)
    (overflow : Overflow) :
    wrap .left overflow columns text = [padEnd columns text] := by
  have unlimited : limit overflow columns text = text := if_pos fits
  rw [isLine.wrap_of_fits fits, align, unlimited]

/-- No column is narrower than a line in it. -/
theorem width_le_cellsWidth (isLine : IsLine text) {cells : List (List Char)} (mem : text ∈ cells) :
    width text ≤ View.cellsWidth cells := by
  have oneLine : View.cellLines text = [text] := by
    have unchanged : (text.map fun char => if endsLine char then '\n' else char) = text := by
      refine (List.map_congr_left fun char mem => ?_).trans (List.map_id text)
      rw [isLine.unbroken char mem]
      rfl
    rw [View.cellLines, unchanged, isLine.splitOn_eq]
  refine le_foldl_max (.inr (List.mem_map_of_mem ?_))
  exact List.mem_flatMap.2 ⟨text, mem, by rw [oneLine]; exact List.mem_singleton.2 rfl⟩

end IsLine

/-! ### Rows -/

namespace View

/-- A cell that is a line stands on the first line of its row. -/
theorem exists_infix_rowLines (bar : Char) {widths : List Nat} {cells : List (List Char)}
    {columns : Nat} {cell : List Char} (mem : (columns, cell) ∈ List.zip widths cells)
    (isLine : IsLine cell) (fits : Screen.width cell ≤ columns) :
    ∃ line ∈ rowLines bar widths cells, cell <:+: line := by
  have wrapped : wrap .left .ellipsis columns cell =
      [cell ++ blanks (columns - Screen.width cell)] :=
    isLine.wrap_left_of_fits fits .ellipsis
  have inRow : [cell ++ blanks (columns - Screen.width cell)] ∈ List.zipWith (wrap .left .ellipsis)
      widths cells := by
    rw [← List.map_uncurry_zip_eq_zipWith]
    exact List.mem_map.2 ⟨(columns, cell), mem, wrapped⟩
  have hasLine : 0 <
      ((List.zipWith (wrap .left .ellipsis) widths cells).map List.length).foldl max 0 :=
    le_foldl_max (.inr (List.mem_map_of_mem inRow))
  refine ⟨_, List.mem_map_of_mem (List.mem_range.2 hasLine), ?_⟩
  have part : ' ' :: (cell ++ blanks (columns - Screen.width cell)) ++ [' '] ∈
      List.zipWith (fun width lines => ' ' :: (lines[0]?).getD (blanks width) ++ [' ']) widths
        (List.zipWith (wrap .left .ellipsis) widths cells) := by
    rw [List.zipWith_zipWith_right, List.zipWith3_same_left, ← List.map_uncurry_zip_eq_zipWith]
    refine List.mem_map.2 ⟨(columns, cell), mem, ?_⟩
    rw [Function.uncurry_apply_pair, wrapped]
    rfl
  refine .trans ?_ (.trans (Text.infix_join [bar] part) ⟨[bar], [bar], rfl⟩)
  exact ⟨[' '], blanks (columns - Screen.width cell) ++ [' '], by simp⟩

/-- Of columns of one height each cell is in a row, under its column. -/
theorem exists_row {height : Nat} {columns : List (List (List Char))}
    (even : ∀ column ∈ columns, column.length = height) {index : Nat} (inside : index < height) :
    ∃ row, (rows height columns)[index]? = some row ∧
      List.Forall₂ (fun column cell => column[index]? = some cell) columns row := by
  induction columns with
  | nil => exact ⟨[], by simp [rows, inside], .nil⟩
  | cons column more ih =>
    rw [List.forall_mem_cons] at even
    rcases ih even.2 with ⟨row, isRow, cells⟩
    have isCell : column[index]? = some (column.get ⟨index, even.1 ▸ inside⟩) :=
      List.getElem?_eq_getElem _
    refine ⟨_, ?_, .cons isCell cells⟩
    rw [rows, List.foldr_cons, ← rows, List.getElem?_zipWith, isCell, isRow]

theorem mem_zip_of_forall₂ {columns : List (List (List Char))} {row : List (List Char)}
    {index : Nat} (cells : List.Forall₂ (fun column cell => column[index]? = some cell) columns row)
    {column : List (List Char)} (mem : column ∈ columns) {cell : List Char}
    (isCell : column[index]? = some cell) :
    (column, cell) ∈ List.zip columns row := by
  induction cells with
  | nil => cases mem
  | cons first _ ih =>
    rcases List.mem_cons.1 mem with rfl | mem
    · rw [isCell] at first
      cases first
      exact List.mem_cons_self
    · exact List.mem_cons_of_mem _ (ih mem)

/-- A cell that is a line stands on a line of its table. -/
theorem exists_infix_lines {title : List Char} {columns : List (List (List Char))}
    {caption? : Option (List Char)} {height : Nat}
    (even : ∀ column ∈ columns, column.length = height) {column : List (List Char)}
    (memColumn : column ∈ columns) {cell : List Char} (memCell : cell ∈ column)
    (isLine : IsLine cell) :
    ∃ line ∈ lines title columns caption?, cell <:+: line := by
  have isHeight : (columns.map List.length).foldl max 0 = height := by
    refine Nat.le_antisymm (foldl_max_le (Nat.zero_le height) ?_) ?_
    · exact List.forall_mem_map.2 fun column mem => (even column mem).le
    · exact le_foldl_max (.inr (List.mem_map.2 ⟨column, memColumn, even column memColumn⟩))
  rcases List.mem_iff_getElem?.1 memCell with ⟨index, isCell⟩
  have inside : index < height := even column memColumn ▸ (List.getElem?_eq_some_iff.1 isCell).1
  rcases exists_row even inside with ⟨row, isRow, cells⟩
  have inZip : (cellsWidth column, cell) ∈ List.zip (columns.map cellsWidth) row := by
    rw [List.zip_map_left]
    exact List.mem_map.2 ⟨(column, cell), mem_zip_of_forall₂ cells memColumn isCell, rfl⟩
  have drawn (bar : Char) :=
    exists_infix_rowLines bar inZip isLine (isLine.width_le_cellsWidth memCell)
  have memRow : row ∈ rows height columns := List.mem_of_getElem? isRow
  rw [lines, isHeight]
  dsimp only
  cases isRows : rows height columns with
  | nil =>
    rw [isRows] at memRow
    cases memRow
  | cons head body =>
    rw [isRows] at memRow
    rcases List.mem_cons.1 memRow with rfl | inBody
    · rcases drawn '┃' with ⟨line, mem, isPart⟩
      exact ⟨line, by simp [mem], isPart⟩
    · rcases drawn '│' with ⟨line, mem, isPart⟩
      have inLines : line ∈ body.flatMap (rowLines '│' (columns.map cellsWidth)) :=
        List.mem_flatMap.2 ⟨row, inBody, mem⟩
      exact ⟨line, by simp [inLines], isPart⟩

end View

end Schemagram.Screen
