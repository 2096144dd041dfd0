import Schemagram.Proofs.Command.Inspection
import Schemagram.Proofs.Screen.Cells
import Schemagram.Proofs.Strict.Sound
import Schemagram.Proofs.Tables.Sound

/-!
# How tables are shown

The names, types and keys in the tables of a schema are shown as they are, whatever the text and
whatever the screen.  Members of enums and notes are written freely, and the screen takes them for
marked text.  So the tables are shown as they are if the members, or the notes under the strict
grammar, mean nothing; a tag among them is not shown; and a closing tag without its opening one
keeps its table and all that follow from being printed.
-/

namespace Schemagram

open Screen
open Text (CodePoint points)

/-! ### The tables of a schema -/

theorem isFixed_checkMark (isSet : Bool) : IsFixed (points (checkMark isSet)) := by
  cases isSet <;> exact isFixed_points (by decide +kernel)

/-- The members that are shown of a table. -/
def Table.memberTexts (table : Table) : List String := table.columns.map Column.membersText

theorem Table.mem_views {table : Table} {view : View} (mem : view ∈ table.views) :
    view = table.columnsView ∨ view = table.keysView := by
  unfold views at mem
  split at mem
  · exact .inl (List.mem_singleton.1 mem)
  · simpa using mem

theorem Table.columnsView_mem_views (table : Table) : table.columnsView ∈ table.views := by
  unfold views
  split <;> exact List.mem_cons_self

namespace Table.Sound

variable {tables : List Table} {table : Table}

/-- Of the columns of a table only the members are free. -/
theorem cells_columnsView (sound : Table.Sound tables) (mem : table ∈ tables) :
    ∀ cell ∈ table.columnsView.cells, cell ∈ table.memberTexts.map points ∨ IsFixed cell := by
  have head {text : String} (fixed : (∀ char ∈ text.toList, isQuiet char = true) ∧
      IsLine text.toList) :
      points text ∈ table.memberTexts.map points ∨ IsFixed (points text) :=
    .inr (isFixed_points fixed)
  simp only [View.cells, columnsView, View.Column.ofStrings, List.forall_mem_flatMap,
    List.forall_mem_cons, List.forall_mem_map, List.not_mem_nil, false_implies,
    implies_true, and_true]
  refine ⟨⟨head (by decide +kernel), fun column memColumn => .inr ?_⟩,
    ⟨head (by decide +kernel), fun column memColumn => .inr ?_⟩,
    ⟨head (by decide +kernel), fun column _ => .inr (isFixed_checkMark _)⟩,
    ⟨head (by decide +kernel), fun column _ => .inr (isFixed_checkMark _)⟩,
    head (by decide +kernel), fun column memColumn =>
      .inl (List.mem_map_of_mem (List.mem_map_of_mem memColumn))⟩
  · exact isFixed_of_isWord (sound.columns table mem column memColumn).name
  · exact isFixed_of_isType (sound.columns table mem column memColumn).type

/-- A key leads from a word to two words with a dot between them. -/
theorem isFixed_reference (sound : Table.Sound tables) (mem : table ∈ tables) {key : ForeignKey}
    (memKey : key ∈ table.foreignKeys) :
    IsFixed (points (key.referenceTable ++ "." ++ key.referenceColumn)) := by
  rcases (sound.keys table mem key memKey).2 with ⟨target, found, column, memColumn, sameName⟩
  have isTable : target.name = key.referenceTable := by simpa using List.find?_some found
  have memTarget : target ∈ tables := List.mem_of_find?_eq_some found
  refine isFixed_of_isSimple ?_
  rw [← isTable, ← sameName, String.toList_append, String.toList_append, List.forall_mem_append,
    List.forall_mem_append]
  exact ⟨⟨fun char inName =>
    isSimple_of_isWord ((sound.names target memTarget).2 char inName), by decide⟩,
    fun char inName =>
      isSimple_of_isWord ((sound.columns target memTarget column memColumn).name.2 char inName)⟩

theorem cells_keysView (sound : Table.Sound tables) (mem : table ∈ tables) :
    ∀ cell ∈ table.keysView.cells, IsFixed cell := by
  simp only [View.cells, keysView, View.Column.ofStrings, List.forall_mem_flatMap,
    List.forall_mem_cons, List.forall_mem_map, List.not_mem_nil, false_implies,
    implies_true, and_true]
  refine ⟨⟨isFixed_points (by decide +kernel), fun key memKey =>
    isFixed_of_isWord (sound.keys table mem key memKey).1⟩,
    ⟨isFixed_points (by decide +kernel), fun key memKey => sound.isFixed_reference mem memKey⟩,
    isFixed_points (by decide +kernel), fun key _ => ?_⟩
  cases key.relation <;> exact isFixed_points (by decide +kernel)

theorem varies (sound : Table.Sound tables) :
    Varies (tables.flatMap Table.views) (tables.flatMap Table.memberTexts) := by
  have exists_table {view : View} (mem : view ∈ tables.flatMap Table.views) :
      ∃ table ∈ tables, view = table.columnsView ∨ view = table.keysView := by
    rcases List.mem_flatMap.1 mem with ⟨table, memTable, isView⟩
    exact ⟨table, memTable, Table.mem_views isView⟩
  refine ⟨fun view mem => ?_, fun view mem cell memCell => ?_, fun view mem caption isCaption => ?_,
    fun view mem => ?_, fun text isFree => ?_⟩
  · rcases exists_table mem with ⟨table, memTable, rfl | rfl⟩
    · exact (isFixed_of_isWord (sound.names table memTable)).isQuiet
    · exact isQuiet_of_isWord_append (sound.names table memTable) (by decide)
  · rcases exists_table mem with ⟨table, memTable, rfl | rfl⟩
    · refine (sound.cells_columnsView memTable cell memCell).imp_left fun isMember => ?_
      rw [List.map_flatMap]
      exact List.mem_flatMap.2 ⟨table, memTable, isMember⟩
    · exact .inr (sound.cells_keysView memTable cell memCell)
  · rcases exists_table mem with ⟨table, _, rfl | rfl⟩ <;> cases isCaption
  · rcases exists_table mem with ⟨table, _, rfl | rfl⟩
    · exact ⟨table.columns.length, by simp [columnsView, View.Column.ofStrings]⟩
    · exact ⟨table.foreignKeys.length, by simp [keysView, View.Column.ofStrings]⟩
  · rcases List.mem_flatMap.1 isFree with ⟨table, memTable, isMember⟩
    refine ⟨table.columnsView, List.mem_flatMap.2 ⟨table, memTable, table.columnsView_mem_views⟩,
      ?_⟩
    have isColumn : .ofStrings "Enum values" table.memberTexts ∈ table.columnsView.columns :=
      List.mem_of_getElem? (i := 4) rfl
    exact View.mem_texts (View.mem_cells isColumn (.inr (List.mem_map_of_mem isMember)))

end Table.Sound

/-! ### The tables of the strict grammar -/

namespace Strict

/-- The notes of a table: those of its columns, and its own unless it is empty. -/
def Table.notes (table : Table) : List String :=
  table.columns.filterMap Column.note? ++ (table.note?.filter (!·.isEmpty)).toList

theorem isFixed_of_isDotted {text : String} (isDotted : IsDotted text.toList) :
    IsFixed (points text) := by
  rcases isDotted with ⟨table, column, isTable, isColumn, whole⟩
  refine isFixed_of_isSimple ?_
  rw [whole, List.forall_mem_append, List.forall_mem_cons]
  exact ⟨fun char mem => isSimple_of_isWord (isTable.2 char mem), by decide,
    fun char mem => isSimple_of_isWord (isColumn.2 char mem)⟩

theorem Table.mem_texts_of_mem_notes (table : Table) :
    ∀ note ∈ table.notes, points note ∈ table.view.texts := by
  rw [Table.notes, List.forall_mem_append]
  constructor
  · intro note mem
    rcases List.mem_filterMap.1 mem with ⟨column, memColumn, isNote⟩
    have isColumn : .ofStrings "Note" (table.columns.map fun column => column.note?.getD "") ∈
        table.view.columns :=
      List.mem_of_getElem? (i := 5) rfl
    exact View.mem_texts
      (View.mem_cells isColumn
        (.inr (List.mem_map_of_mem (List.mem_map.2 ⟨column, memColumn, by rw [isNote]; rfl⟩))))
  · intro note isNote
    exact View.caption_mem_texts (congrArg (Option.map points) (Option.mem_toList.1 isNote))

namespace Table.Sound

variable {table : Table}

theorem isQuiet_title (sound : table.Sound) : IsQuiet (points table.title) := by
  unfold Table.title
  split
  · rename_i short isShort
    rw [String.append_assoc, String.append_assoc]
    refine isQuiet_of_isWord_append sound.name ?_
    rw [String.toList_append, String.toList_append, List.forall_mem_append, List.forall_mem_append]
    exact ⟨by decide, fun char mem =>
      isQuiet_of_isWord ((sound.short short isShort).2 char mem), by decide⟩
  · exact (isFixed_of_isWord sound.name).isQuiet

/-- Of the columns of a table only the notes are free. -/
theorem cells_view (sound : table.Sound) : ∀ cell ∈ table.view.cells,
    cell ∈ table.notes.map points ∨ IsFixed cell := by
  have head {text : String} (fixed : (∀ char ∈ text.toList, isQuiet char = true) ∧
      IsLine text.toList) :
      points text ∈ table.notes.map points ∨ IsFixed (points text) := .inr (isFixed_points fixed)
  have blank : IsFixed (points "") := isFixed_points (by decide)
  simp only [View.cells, Table.view, View.Column.ofStrings, List.forall_mem_flatMap,
    List.forall_mem_cons, List.forall_mem_map, List.not_mem_nil, false_implies,
    implies_true, and_true]
  refine ⟨⟨head (by decide +kernel), fun column mem =>
    .inr (isFixed_of_isWord (sound.columns column mem).name)⟩,
    ⟨head (by decide +kernel), fun column mem => .inr ?_⟩,
    ⟨head (by decide +kernel), fun column _ => .inr (isFixed_checkMark _)⟩,
    ⟨head (by decide +kernel), fun column _ => .inr (isFixed_checkMark _)⟩,
    ⟨head (by decide +kernel), fun column mem => .inr ?_⟩, head (by decide +kernel),
    fun column mem => ?_⟩
  · refine isFixed_of_isSimple fun char inType => ?_
    rcases (sound.columns column mem).type char inType with inWord | isMark
    · exact isSimple_of_isWord inWord
    · exact isSimple_of_mem_marks isMark
  · cases isKey : column.foreignKey? with
    | none => exact blank
    | some target => exact isFixed_of_isDotted ((sound.columns column mem).foreignKey target isKey)
  · cases isNote : column.note? with
    | none => exact .inr blank
    | some note =>
      refine .inl (List.mem_map_of_mem (List.mem_append_left _ ?_))
      exact List.mem_filterMap.2 ⟨column, mem, isNote⟩

end Table.Sound

theorem varies_of_sound {tables : List Table} (sound : ∀ table ∈ tables, table.Sound) :
    Varies (tables.map Table.view) (tables.flatMap Table.notes) := by
  have inTable {text : List CodePoint} {table : Table} (mem : table ∈ tables)
      (isNote : text ∈ table.notes.map points) :
      text ∈ (tables.flatMap Table.notes).map points := by
    rw [List.map_flatMap]
    exact List.mem_flatMap.2 ⟨table, mem, isNote⟩
  refine ⟨?_, ?_, ?_, ?_, fun text isFree => ?_⟩
  · exact List.forall_mem_map.2 fun table mem => (sound table mem).isQuiet_title
  · exact List.forall_mem_map.2 fun table mem cell memCell =>
      ((sound table mem).cells_view cell memCell).imp_left (inTable mem)
  · refine List.forall_mem_map.2 fun table mem caption isCaption => inTable mem ?_
    rcases Option.map_eq_some_iff.1 isCaption with ⟨note, isNote, rfl⟩
    exact List.mem_map_of_mem (List.mem_append_right _ (Option.mem_toList.2 isNote))
  · exact List.forall_mem_map.2 fun table _ =>
      ⟨table.columns.length, by simp [Table.view, View.Column.ofStrings]⟩
  · rcases List.mem_flatMap.1 isFree with ⟨table, mem, isNote⟩
    exact ⟨table.view, List.mem_map_of_mem mem, table.mem_texts_of_mem_notes text isNote⟩

end Strict

/-! ### The command -/

namespace Command

/-- The outcome in which a page is refused for its marks, behind the pages before. -/
def Outcome.IsRefused (outcome : Outcome) : Prop :=
  ∃ output reason, outcome = ⟨1, output, [], none, some (.page (.markup reason))⟩

/-- How a command ends that shows views in which some texts are free. -/
structure Shows (screen : Renderer) (views : List View) (free : List String) (outcome : Outcome) :
    Prop where
  varies : Varies views free
  /-- If all free texts are read, then what they show is printed, and everything else as it is. -/
  shown : ∀ reading, IsReading screen free reading → ∃ output : List Char, outcome = .print output ∧
    output.map .ofChar = views.flatMap fun view => screen.table (view.map reading)
  stands : ∀ reading, IsReading screen free reading → ∀ view ∈ views,
    screen.hasRoom (view.map reading) = true →
    ∀ cell ∈ view.cells, cell ∉ free.map points → cell <:+: screen.table (view.map reading)
  /-- If no free text means anything, then everything is printed as it is. -/
  verbatim : (∀ text ∈ free, ∀ char ∈ text.toList, isQuiet char = true) → ∃ output : List Char,
    outcome = .print output ∧ output.map .ofChar = views.flatMap screen.table
  /-- Tags in free texts are not shown. -/
  drops : ∀ reading, IsReading screen free reading → ∀ text ∈ free, ∀ before after,
    HasTag text.toList before after →
    reading (points text) = (before ++ after).map .ofChar
  refused : (∃ text ∈ free, ∀ shown, screen.read (points text) ≠ .ok shown) → outcome.IsRefused
  closing : (∃ text ∈ free, ClosesFirst text.toList) → outcome.IsRefused

section

variable {screen : Renderer} (documented : screen.Documented) {views : List View}
  {free : List String}

include documented

/-- Views whose texts are read are printed one after the other. -/
theorem exists_printPages {reading : List CodePoint → List CodePoint}
    (chars : ∀ view ∈ views, ∀ text ∈ view.texts, IsChars text)
    (reads : ∀ view ∈ views, ∀ text ∈ view.texts, screen.read text = .ok (reading text)) :
    ∃ output : List Char, printPages (views.map screen.tablePage) = .print output ∧
      output.map .ofChar = views.flatMap fun view => screen.table (view.map reading) := by
  induction views with
  | nil => exact ⟨[], rfl, rfl⟩
  | cons view more ih =>
    rw [List.forall_mem_cons] at chars reads
    rcases documented.exists_tablePage chars.1 reads.1 with ⟨page, isPage, isTable⟩
    rcases ih chars.2 reads.2 with ⟨output, isPrinted, isShown⟩
    refine ⟨page ++ output, ?_, ?_⟩
    · rw [List.map_cons, isPage, printPages, isPrinted]
      rfl
    · rw [List.map_append, isShown, ← isTable, List.flatMap_cons]

/-- A free text that is not read keeps the pages from being printed. -/
theorem isRefused_of_varies (varies : Varies views free) {text : String} (mem : text ∈ free)
    (refused : ∀ shown, screen.read (points text) ≠ .ok shown) :
    (printPages (views.map screen.tablePage)).IsRefused := by
  rcases varies.used text mem with ⟨view, memView, isText⟩
  rcases Renderer.exists_tablePage_error isText refused with ⟨reason, isError⟩
  rcases exists_crash_of_mem (List.mem_map.2 ⟨view, memView, isError⟩) with
    ⟨output, fault, memFault, crashes⟩
  rcases List.mem_map.1 memFault with ⟨other, memOther, isFault⟩
  cases fault with
  | markup reason => exact ⟨output, reason, crashes⟩
  | surrogate =>
    exact absurd isFault (documented.tablePage_ne_surrogate (varies.isChars other memOther))

theorem shows_of_varies (varies : Varies views free) :
    Shows screen views free (printPages (views.map screen.tablePage)) := by
  have shown {reading : List CodePoint → List CodePoint}
      (isReading : IsReading screen free reading) :=
    exists_printPages documented varies.isChars (varies.read_eq documented isReading)
  refine ⟨varies, fun _ => shown, fun reading isReading view mem hasRoom cell => ?_,
    fun quiet => ?_, fun reading isReading text mem before after hasTag => ?_, ?_, ?_⟩
  · exact varies.infix_table documented isReading mem hasRoom
  · simpa only [View.map_id] using shown (isReading_id documented quiet)
  · have isRead := isReading.reads text mem
    rw [points, documented.read_tag _ before after hasTag] at isRead
    exact (Except.ok.inj isRead).symm
  · rintro ⟨text, mem, refused⟩
    exact isRefused_of_varies documented varies mem refused
  · rintro ⟨text, mem, closes⟩
    refine isRefused_of_varies documented varies mem fun shown isShown => ?_
    rcases documented.read_closing _ closes with ⟨reason, refused⟩
    rw [points, refused] at isShown
    cases isShown

end

variable {surroundings : Surroundings} {location : Location} {text : List Char}

theorem result_run_parse (readable : readText surroundings location = .ok text)
    (dialect? : Option Dialect) :
    (run surroundings (.parse location .table dialect? false)).result =
      showTables surroundings .table (Schema.parse (String.ofList text) dialect?).result := by
  rw [run, withText, readable]
  rfl

theorem result_run_parse_strict (readable : readText surroundings location = .ok text) :
    (run surroundings (.parse location .table none true)).result =
      match (Strict.parse? (String.ofList text)).result with
      | none => .fail surroundings "Schema does not match the strict grammar"
      | some tables => showStrictTables surroundings .table tables := by
  rw [run, withText, readable]
  change (runParse surroundings .table none true (String.ofList text)).result = _
  rw [runParse, if_pos rfl, Logged.result_bind]
  cases (Strict.parse? (String.ofList text)).result <;> rfl

/-- The tables of a readable text are listed, with only the members of enums as free texts.  A text
that matches the strict grammar has its tables listed with only notes as free texts. -/
theorem list_of_readable (documented : surroundings.screen.Documented)
    (readable : readText surroundings location = .ok text) :
    (∀ dialect?, (Schema.parse (String.ofList text) dialect?).result = [] → ∃ output : List Char,
      (run surroundings (.parse location .table dialect? false)).result = .print output ∧
      output.map .ofChar = surroundings.screen.line (points "No tables found.")) ∧
    (∀ dialect? tables, (Schema.parse (String.ofList text) dialect?).result = tables → tables ≠ [] →
      Shows surroundings.screen (tables.flatMap Table.views) (tables.flatMap Table.memberTexts)
        (run surroundings (.parse location .table dialect? false)).result) ∧
    ((Strict.parse? (String.ofList text)).result = none →
      (run surroundings (.parse location .table none true)).result =
        .fail surroundings "Schema does not match the strict grammar") ∧
    ∀ tables, (Strict.parse? (String.ofList text)).result = some tables →
      Shows surroundings.screen (tables.map Strict.Table.view) (tables.flatMap Strict.Table.notes)
        (run surroundings (.parse location .table none true)).result := by
  refine ⟨?_, ?_, ?_, ?_⟩
  · intro dialect? noTables
    rw [result_run_parse readable, noTables]
    have isRead := documented.read_quiet "No tables found.".toList (by decide)
    rcases documented.line_chars _ ⟨"No tables found.".toList, rfl⟩ with ⟨page, isLine⟩
    have isPage : surroundings.screen.linePage (points "No tables found.") = .ok page :=
      Renderer.linePage_eq_ok_iff.2 ⟨_, isRead, isLine⟩
    refine ⟨page, ?_, isLine.symm⟩
    rw [showTables]
    simp only [List.isEmpty_nil, if_true, isPage]
    exact (printPages_map_ok [page]).trans (congrArg Outcome.print (List.append_nil page))
  · rintro dialect? tables rfl someTables
    rw [result_run_parse readable, showTables]
    simp only [List.isEmpty_iff, if_neg someTables]
    rw [Schema.result_parse]
    exact shows_of_varies documented (Dialect.sound_parse _ _).varies
  · intro refused
    rw [result_run_parse_strict readable, refused]
  · intro tables accepted
    rw [result_run_parse_strict readable, accepted]
    exact shows_of_varies documented (Strict.varies_of_sound (Strict.parse?_sound accepted))

/-- A schema with one enum of one member, and its tables. -/
def oneMember (member : String) : List Char :=
  ("Enum e \x7b\n " ++ member ++ "\n\x7d\nTable t \x7b\n s e\n\x7d\n").toList

def oneMemberTables (member : String) : List Table :=
  [⟨"t", [⟨"s", "e", false, true, some true, some [member]⟩], []⟩]

/-- A schema of the strict grammar with one note, and its tables. -/
def oneNote (note : String) : List Char :=
  ("Table t \x7b s int [note: '" ++ note ++ "'] \x7d").toList

def oneNoteTables (note : String) : List Strict.Table :=
  [{ name := "t"
     columns := [
      { name := "s", type := "int", isPrimaryKey := false, isNullable := true
        note? := some note }] }]

theorem readText_closingMember :
    readText (withInput (oneMember "[/b]")) .input = .ok (oneMember "[/b]") := by
  decide +kernel

theorem parse_closingMember :
    (Schema.parse (String.ofList (oneMember "[/b]")) none).result = oneMemberTables "[/b]" := by
  decide +kernel

theorem list_of_readable_members :
    (∃ output : List Char,
      (run (withInput (oneMember "(b)")) (.parse .input .table none false)).result = .print output ∧
      output.map .ofChar = ((oneMemberTables "(b)").flatMap Table.views).flatMap
      (Screen.console 80 "").table) ∧
    (run (withInput (oneMember "[/b]")) (.parse .input .table none false)).result.IsRefused ∧
    (run (withInput (oneNote "[/b]")) (.parse .input .table none true)).result.IsRefused ∧
    (∃ output : List Char, (run (withInput []) (.parse .input .table none false)).result =
      .print output ∧
      output.map .ofChar = (Screen.console 80 "").line (points "No tables found.")) ∧
    (run (withInput ['x']) (.parse .input .table none true)).result =
      .fail (withInput ['x']) "Schema does not match the strict grammar" := by
  have documented := documented_console 80 ""
  refine ⟨?_, ?_, ?_, ?_, ?_⟩
  · have readable : readText (withInput (oneMember "(b)")) .input = .ok (oneMember "(b)") := by
      decide +kernel
    have parsed : (Schema.parse (String.ofList (oneMember "(b)")) none).result =
        oneMemberTables "(b)" := by
      decide +kernel
    exact ((list_of_readable documented readable).2.1 none _ parsed (by decide)).verbatim
      (by decide +kernel)
  · refine ((list_of_readable documented readText_closingMember).2.1 none _ parse_closingMember
      (by decide)).closing ?_
    exact ⟨"[/b]", by decide +kernel, closesFirst_closingTag⟩
  · have readable : readText (withInput (oneNote "[/b]")) .input = .ok (oneNote "[/b]") := by
      decide +kernel
    have parsed : (Strict.parse? (String.ofList (oneNote "[/b]"))).result =
        some (oneNoteTables "[/b]") := by
      decide +kernel
    refine ((list_of_readable documented readable).2.2.2 _ parsed).closing ?_
    exact ⟨"[/b]", by decide +kernel, closesFirst_closingTag⟩
  · have readable : readText (withInput []) .input = .ok [] := by decide +kernel
    exact (list_of_readable documented readable).1 none (by decide +kernel)
  · have readable : readText (withInput ['x']) .input = .ok ['x'] := by decide +kernel
    exact (list_of_readable documented readable).2.2.1 (by decide +kernel)

/-- Not every list of tables is shown: a member may be a closing tag. -/
theorem list_without_pages : ¬∀ surroundings : Surroundings, surroundings.screen.Documented →
    ∀ location text, readText surroundings location = .ok text → ∀ dialect? tables,
      (Schema.parse (String.ofList text) dialect?).result = tables → tables ≠ [] →
        (run surroundings (.parse location .table dialect? false)).result.exit = 0 := by
  intro always
  have fails : (run (withInput (oneMember "[/b]")) (.parse .input .table none false)).result.exit ≠
      0 := by
    decide +kernel
  exact fails (always (withInput (oneMember "[/b]")) (documented_console 80 "") .input _
    readText_closingMember none _ parse_closingMember (by decide))

end Command

end Schemagram
