import Mathlib.Data.List.Forall2
import Schemagram.Proofs.Results
import Schemagram.Screen.Renderer

/-!
# Pages

What is known of the pages of any screen.  A table is read exactly if all of its texts are, and it
is then laid out with what its texts show.  A page is printed unless there is a surrogate in it, and
none comes out of texts without one.
-/

namespace Schemagram.Screen

open Except (bind_eq_ok_iff mapError_eq_ok_iff exists_error_iff mapM_eq_ok_map exists_bind_iff
  exists_bind_iff_and exists_mapM_iff)
open Text (CodePoint points)

/-! ### Reading -/

namespace View

variable {Fault : Type} {read : List CodePoint → Except Fault (List CodePoint)}
  {reading : List CodePoint → List CodePoint}
  {view : View}

theorem mem_cells {column : View.Column} (mem : column ∈ view.columns) {text : List CodePoint} :
    text = column.head ∨ text ∈ column.cells → text ∈ view.cells :=
  fun isText => List.mem_flatMap.2 ⟨column, mem, List.mem_cons.2 isText⟩

theorem mem_texts {text : List CodePoint} (mem : text ∈ view.cells) : text ∈ view.texts :=
  List.mem_cons_of_mem _ (List.mem_append_left _ mem)

theorem caption_mem_texts {caption : List CodePoint} (isCaption : view.caption? = some caption) :
    caption ∈ view.texts :=
  List.mem_cons_of_mem _ (List.mem_append_right _ (Option.mem_toList.2 isCaption))

theorem forall_texts {holds : List CodePoint → Prop} : (∀ text ∈ view.texts, holds text) ↔
    holds view.title ∧ (∀ text ∈ view.cells, holds text) ∧ ∀ caption ∈ view.caption?,
    holds caption := by
  simp only [texts, List.forall_mem_cons, List.forall_mem_append, Option.mem_toList]
  rfl

theorem forall_cells {holds : List CodePoint → Prop} : (∀ text ∈ view.cells, holds text) ↔
    ∀ column ∈ view.columns, holds column.head ∧ ∀ cell ∈ column.cells, holds cell := by
  simp only [cells, List.forall_mem_flatMap, List.forall_mem_cons]

/-- A table whose texts are read shows what they show. -/
theorem readBy_eq_map (reads : ∀ text ∈ view.texts, read text = .ok (reading text)) :
    view.readBy read = .ok (view.map reading) := by
  rw [forall_texts, forall_cells] at reads
  rcases reads with ⟨readsTitle, readsCells, readsCaption⟩
  have columns : view.columns.mapM (Column.readBy read) =
      .ok (view.columns.map fun column => ⟨reading column.head, column.cells.map reading⟩) := by
    refine mapM_eq_ok_map fun column mem => ?_
    rw [Column.readBy, (readsCells column mem).1, mapM_eq_ok_map (readsCells column mem).2]
    rfl
  rw [readBy, columns, readsTitle, View.map]
  cases caption : view.caption? with
  | none => rfl
  | some text =>
    have readsText := readsCaption text caption
    dsimp only [bind, Except.bind]
    rw [readsText]
    rfl

/-- A table is read exactly if all of its texts are. -/
theorem exists_readBy_iff : (∃ shown, view.readBy read = .ok shown) ↔
    ∀ text ∈ view.texts, ∃ shown, read text = .ok shown := by
  have ofColumn (column : Column) : (∃ shown, column.readBy read = .ok shown) ↔
      (∃ shown, read column.head = .ok shown) ∧ ∀ cell ∈ column.cells, ∃ shown,
      read cell = .ok shown := by
    rw [← exists_mapM_iff]
    refine exists_bind_iff_and fun head => ?_
    rw [exists_bind_iff]
    exact exists_congr fun cells => and_iff_left ⟨_, rfl⟩
  rw [forall_texts, forall_cells, ← forall₂_congr fun column _ => ofColumn column,
    ← exists_mapM_iff, and_left_comm]
  refine exists_bind_iff_and fun columns => exists_bind_iff_and fun title => ?_
  cases view.caption? with
  | none => exact iff_of_true ⟨_, rfl⟩ (by simp)
  | some caption =>
    simp only [Option.mem_some_iff, forall_eq']
    cases read caption with
    | error fault => exact iff_of_false (by rintro ⟨_, ⟨⟩⟩) (by rintro ⟨_, ⟨⟩⟩)
    | ok shown => exact iff_of_true ⟨_, rfl⟩ ⟨shown, rfl⟩

/-- What a table shows is what each of its texts shows. -/
theorem exists_reading {shown : View} (isShown : view.readBy read = .ok shown) :
    ∃ reading : List CodePoint → List CodePoint,
    (∀ text ∈ view.texts, read text = .ok (reading text)) ∧
      view.map reading = shown := by
  let reading (text : List CodePoint) : List CodePoint := (read text).toOption.getD []
  have reads : ∀ text ∈ view.texts, read text = .ok (reading text) := by
    intro text mem
    rcases exists_readBy_iff.1 ⟨shown, isShown⟩ text mem with ⟨shownText, isShownText⟩
    simp only [reading, isShownText]
    rfl
  refine ⟨reading, reads, ?_⟩
  rw [readBy_eq_map reads] at isShown
  exact Except.ok.inj isShown

theorem cells_map : (view.map reading).cells = view.cells.map reading := by
  simp only [cells, map, List.flatMap_map, List.map_flatMap, List.map_cons]

theorem texts_map : (view.map reading).texts = view.texts.map reading := by
  rw [texts, texts, cells_map, List.map_cons, List.map_append]
  rw [map]
  cases view.caption? <;> simp

theorem IsEven.map (even : view.IsEven) : (view.map reading).IsEven := by
  rcases even with ⟨height, isHeight⟩
  exact ⟨height, List.forall_mem_map.2 fun column mem =>
    (List.length_map _).trans (isHeight column mem)⟩

end View

/-! ### Printing -/

theorem isChars_points (text : String) : IsChars (points text) := ⟨text.toList, rfl⟩

theorem toChar?_eq_some_iff {point : CodePoint} {char : Char} : point.toChar? = some char ↔
    .ofChar char = point := by
  constructor
  · intro isChar
    rw [CodePoint.toChar?] at isChar
    by_cases valid : point.val.isValidChar
    · rw [dif_pos valid] at isChar
      cases isChar
      rfl
    · rw [dif_neg valid] at isChar
      cases isChar
  · rintro rfl
    exact CodePoint.toChar?_ofChar char

/-- A page is printed as the characters of which it is made. -/
theorem encoded_eq_ok_iff {page : List CodePoint} {chars : List Char} :
    encoded page = .ok chars ↔ page = chars.map .ofChar := by
  have isMade : page.mapM CodePoint.toChar? = some chars ↔ page = chars.map .ofChar := by
    induction page generalizing chars with
    | nil => cases chars <;> simp
    | cons point more ih =>
      simp only [List.mapM_cons, Option.bind_eq_bind, Option.bind_eq_some_iff, Option.pure_def,
        Option.some.injEq, ih, toChar?_eq_some_iff]
      cases chars with
      | nil => simp
      | cons char others => simp [eq_comm]
  rw [encoded, ← isMade]
  cases page.mapM CodePoint.toChar? <;> simp

namespace Renderer

variable {screen : Renderer} {view : View} {text : List CodePoint}

/-- The page of a table is that of what its texts show, without surrogates. -/
theorem tablePage_eq_ok_iff {page : List Char} : screen.tablePage view = .ok page ↔
    ∃ shown, view.readBy screen.read = .ok shown ∧ screen.table shown = page.map .ofChar := by
  simp only [tablePage, bind_eq_ok_iff, mapError_eq_ok_iff, encoded_eq_ok_iff]

theorem linePage_eq_ok_iff {page : List Char} : screen.linePage text = .ok page ↔
    ∃ shown, screen.read text = .ok shown ∧ screen.line shown = page.map .ofChar := by
  simp only [linePage, bind_eq_ok_iff, mapError_eq_ok_iff, encoded_eq_ok_iff]

/-- A table with a text that is refused is not printed. -/
theorem exists_tablePage_error (mem : text ∈ view.texts)
    (refused : ∀ shown, screen.read text ≠ .ok shown) :
    ∃ reason, screen.tablePage view = .error (.markup reason) := by
  have unread : ¬∃ shown, view.readBy screen.read = .ok shown := by
    rw [View.exists_readBy_iff]
    intro reads
    rcases reads text mem with ⟨shown, isShown⟩
    exact refused shown isShown
  rcases exists_error_iff.2 unread with ⟨reason, failed⟩
  exact ⟨reason, by rw [tablePage, failed]; rfl⟩

namespace Documented

variable (documented : screen.Documented)

include documented

/-- What a table of texts without surrogates shows is laid out without surrogates. -/
theorem isChars_table {shown : View} (chars : ∀ text ∈ view.texts, IsChars text)
    (isShown : view.readBy screen.read = .ok shown) : IsChars (screen.table shown) := by
  rcases View.exists_reading isShown with ⟨reading, reads, rfl⟩
  refine documented.table_chars _ ?_
  rw [View.texts_map]
  exact List.forall_mem_map.2 fun text mem => documented.read_chars text _ (chars text mem)
    (reads text mem)

/-- A table of texts without surrogates is printed with what its texts show. -/
theorem exists_tablePage {reading : List CodePoint → List CodePoint}
    (chars : ∀ text ∈ view.texts, IsChars text)
    (reads : ∀ text ∈ view.texts, screen.read text = .ok (reading text)) :
    ∃ page : List Char, screen.tablePage view = .ok page ∧ screen.table (view.map reading) =
      page.map .ofChar := by
  have isShown := View.readBy_eq_map reads
  rcases documented.isChars_table chars isShown with ⟨page, isPage⟩
  exact ⟨page, tablePage_eq_ok_iff.2 ⟨_, isShown, isPage⟩, isPage⟩

/-- A table of texts without surrogates fails for its marks only. -/
theorem tablePage_ne_surrogate (chars : ∀ text ∈ view.texts, IsChars text) :
    screen.tablePage view ≠ .error .surrogate := by
  intro failed
  cases isShown : view.readBy screen.read with
  | error reason =>
    rw [Renderer.tablePage, isShown] at failed
    cases failed
  | ok shown =>
    rcases documented.isChars_table chars isShown with ⟨page, isPage⟩
    rw [tablePage_eq_ok_iff.2 ⟨shown, isShown, isPage⟩] at failed
    cases failed

/-- A text without a bracket is read. -/
theorem exists_read {text : String} (noBracket : '[' ∉ text.toList) :
    ∃ shown, screen.read (points text) = .ok shown :=
  documented.read_unclosing text.toList fun closing => noBracket (closing.subset List.mem_cons_self)

/-- A line without a closing tag and without surrogates is printed. -/
theorem exists_linePage {text : List Char} (noClosing : ¬['[', '/'] <:+: text) :
    ∃ page, screen.linePage (text.map .ofChar) = .ok page := by
  rcases documented.read_unclosing text noClosing with ⟨shown, isShown⟩
  rcases documented.line_chars shown (documented.read_chars _ _ ⟨text, rfl⟩ isShown) with
    ⟨page, isPage⟩
  exact ⟨page, linePage_eq_ok_iff.2 ⟨shown, isShown, isPage⟩⟩

end Documented

end Renderer

end Schemagram.Screen
