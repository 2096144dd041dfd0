import Schemagram.Proofs.Screen.Lines
import Schemagram.Proofs.Screen.Marks

/-!
# The console does what is documented

A console of any width, at any time, is a screen as the documents describe it.
-/

namespace Schemagram.Screen

namespace Console

open Text (CodePoint)

theorem charsOf_map (text : List Char) : charsOf (text.map .ofChar) = text := by
  rw [charsOf, List.map_map]
  exact (List.map_congr_left fun char _ => by simp [CodePoint.toChar?_ofChar]).trans text.map_id

theorem surrogates_map (text : List Char) : surrogates (text.map .ofChar) = [] := by
  simp [surrogates, CodePoint.toChar?_ofChar]

theorem surrogates_of_isChars {text : List CodePoint} (isChars : IsChars text) :
    surrogates text = [] := by
  rcases isChars with ⟨chars, rfl⟩
  exact surrogates_map chars

theorem read_map (text : List Char) : read (text.map .ofChar) =
    match Markup.plain text with
    | .ok shown => .ok (shown.map .ofChar)
    | .error fault => .error fault.message := by
  rw [read, charsOf_map, surrogates_map]
  rfl

theorem read_of_plain {text shown : List Char} (isShown : Markup.plain text = .ok shown) :
    read (text.map .ofChar) = .ok (shown.map .ofChar) := by
  rw [read_map, isShown]

/-- A cell is in a column of the table as characters. -/
theorem exists_column_of_mem {view : View} {cell : List Char}
    (mem : cell.map .ofChar ∈ view.cells) :
    ∃ column ∈ columnsOf view, cell ∈ column := by
  rcases List.mem_flatMap.1 mem with ⟨column, memColumn, isCell⟩
  refine ⟨_, List.mem_map_of_mem memColumn, List.mem_map.2 ⟨_, isCell, charsOf_map cell⟩⟩

theorem isEven_columnsOf {view : View} (even : view.IsEven) :
    ∃ height, ∀ column ∈ columnsOf view, column.length = height := by
  rcases even with ⟨height, isHeight⟩
  refine ⟨height + 1, List.forall_mem_map.2 fun column mem => ?_⟩
  rw [List.length_map, List.length_cons, isHeight column mem]

theorem infix_unlines {lines : List (List Char)} {line : List Char} (mem : line ∈ lines) :
    line <:+: unlines lines :=
  .trans ⟨[], ['\n'], rfl⟩ (List.infix_of_mem_flatten (List.mem_map_of_mem mem))

theorem infix_table {view : View} {cell : List Char} (even : view.IsEven)
    (mem : cell.map .ofChar ∈ view.cells) (isLine : IsLine cell) :
    cell.map .ofChar <:+: table view := by
  rcases isEven_columnsOf even with ⟨height, isHeight⟩
  rcases exists_column_of_mem mem with ⟨column, memColumn, memCell⟩
  rcases View.exists_infix_lines isHeight memColumn memCell isLine with ⟨line, isDrawn, isPart⟩
  exact ((isPart.trans (infix_unlines isDrawn)).map _).trans (List.suffix_append _ _).isInfix

end Console

theorem documented_console (columns : Nat) (time : String) : (console columns time).Documented where
  read_quiet text quiet := Console.read_of_plain (Markup.plain_of_quiet quiet)
  read_tag text before after hasTag := Console.read_of_plain (Markup.plain_of_hasTag hasTag)
  read_unclosing text noClosing := by
    rcases Markup.exists_plain_of_not_infix noClosing with ⟨shown, isShown⟩
    exact ⟨_, Console.read_of_plain isShown⟩
  read_closing text closes := by
    rcases Markup.exists_plain_error closes with ⟨fault, refused⟩
    refine ⟨fault.message, ?_⟩
    change Console.read _ = _
    rw [Console.read_map, refused]
  read_chars text shown isChars isShown := by
    rcases isChars with ⟨chars, rfl⟩
    change Console.read _ = _ at isShown
    rw [Console.read_map] at isShown
    split at isShown
    · cases isShown
      exact ⟨_, rfl⟩
    · cases isShown
  table_chars view isChars := by
    have noSurrogates : view.texts.flatMap Console.surrogates = [] :=
      List.flatMap_eq_nil_iff.2 fun text mem => Console.surrogates_of_isChars (isChars text mem)
    change IsChars (Console.table view)
    rw [Console.table, noSurrogates]
    exact ⟨_, rfl⟩
  line_chars text isChars := by
    change IsChars (Console.line columns text)
    rw [Console.line, Console.surrogates_of_isChars isChars]
    exact ⟨_, rfl⟩
  table_cell view cell even _ mem isLine := Console.infix_table even mem isLine
  message_line sign text := by
    refine ⟨Markup.literal text.toList, ?_⟩
    change _ = Console.line columns _
    rw [Console.line, Console.charsOf_map, Console.surrogates_map]
    rfl

end Schemagram.Screen
