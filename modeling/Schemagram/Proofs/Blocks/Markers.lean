import Schemagram.Proofs.Blocks.Writing
import Schemagram.Proofs.Scan.Parts

/-!
# Settings are told by their markers

A marker is looked for anywhere in the options of a column.  It holds no comma and has no white
space at its ends, so that it is found only within one of the settings, and in no setting but its
own: a reference holds no marker, because the names that it refers to hold none.
-/

namespace Schemagram

namespace Blocks

open Text Writing

/-! ### Markers of a list -/

/-- A part that stands within one item of a list wherever it stands in the list. -/
structure IsMarker (part : List Char) : Prop where
  nonempty : part ≠ []
  noComma : ',' ∉ part
  first : ∀ char ∈ part.head?, isSpace char = false
  last : ∀ char ∈ part.getLast?, isSpace char = false

theorem lower_mem_blanks {text : List Char} (written : text ∈ blanks) : lower text ∈ blanks := by
  intro char mem
  rcases List.mem_flatMap.1 mem with ⟨space, memText, memSpace⟩
  have isSpaces := written space memText
  unfold lowerChar at memSpace
  split at memSpace
  · rename_i isKelvin
    rw [isKelvin] at isSpaces
    cases isSpaces
  · split at memSpace
    · rename_i isDotted
      rw [isDotted] at isSpaces
      cases isSpaces
    · rw [List.mem_singleton.1 memSpace, isSpace_small, isSpaces]

variable {Item : Type} {language : Item → Language Char} {items : List Item} {text part : List Char}

/-- A marker that stands in a list stands in one of its items. -/
theorem exists_of_infix_listed (isMarker : IsMarker part)
    (written : text ∈ listed (items.map language)) (isPart : part <:+: lower text) :
    ∃ item ∈ items, ∃ piece ∈ language item,
    part <:+: lower piece := by
  induction items generalizing text with
  | nil => cases written
  | cons first more ih =>
    cases more with
    | nil =>
      rcases Language.mem_mul.1 written with ⟨before, isBefore, _, inner, rfl⟩
      rcases Language.mem_mul.1 inner with ⟨piece, isPiece, after, isAfter, rfl⟩
      simp only [lower_append] at isPart
      exact ⟨first, List.mem_cons_self, piece, isPiece, infix_of_spaces (lower_mem_blanks isBefore)
        (lower_mem_blanks isAfter) isMarker.nonempty isMarker.first isMarker.last isPart⟩
    | cons second more =>
      rw [List.map_cons, List.map_cons, listed_cons_cons] at written
      rcases Language.mem_mul.1 written with ⟨before, isBefore, _, inner, rfl⟩
      rcases Language.mem_mul.1 inner with ⟨piece, isPiece, _, behindPiece, rfl⟩
      rcases Language.mem_mul.1 behindPiece with ⟨after, isAfter, _, behindGap, rfl⟩
      rcases Language.mem_mul.1 behindGap with ⟨_, rfl, others, isOthers, rfl⟩
      have cut : lower (before ++ (piece ++ (after ++ ([','] ++ others)))) =
          (lower before ++ (lower piece ++ lower after)) ++ ',' :: lower others := by
        have comma : lower (',' :: others) = ',' :: lower others := rfl
        simp [lower_append, comma]
      rw [cut] at isPart
      rcases infix_append_cons isMarker.noComma isPart with inFirst | inMore
      · exact ⟨first, List.mem_cons_self, piece, isPiece,
          infix_of_spaces (lower_mem_blanks isBefore)
          (lower_mem_blanks isAfter) isMarker.nonempty isMarker.first isMarker.last inFirst⟩
      · rcases ih isOthers inMore with ⟨item, mem, found⟩
        exact ⟨item, List.mem_cons_of_mem first mem, found⟩

/-- Every item of a list stands in it. -/
theorem exists_infix_of_listed (written : text ∈ listed (items.map language)) {item : Item}
    (mem : item ∈ items) :
    ∃ piece ∈ language item, piece <:+: text := by
  induction items generalizing text with
  | nil => cases mem
  | cons first more ih =>
    cases more with
    | nil =>
      rcases Language.mem_mul.1 written with ⟨before, _, _, inner, rfl⟩
      rcases Language.mem_mul.1 inner with ⟨piece, isPiece, after, _, rfl⟩
      rw [List.mem_singleton.1 mem]
      exact ⟨piece, isPiece, before, after, by simp⟩
    | cons second more =>
      rw [List.map_cons, List.map_cons, listed_cons_cons] at written
      rcases Language.mem_mul.1 written with ⟨before, _, _, inner, rfl⟩
      rcases Language.mem_mul.1 inner with ⟨piece, isPiece, _, behindPiece, rfl⟩
      rcases Language.mem_mul.1 behindPiece with ⟨after, _, _, behindGap, rfl⟩
      rcases Language.mem_mul.1 behindGap with ⟨_, rfl, others, isOthers, rfl⟩
      rcases List.mem_cons.1 mem with rfl | mem
      · exact ⟨piece, isPiece, before, after ++ ([','] ++ others), by simp⟩
      · rcases ih isOthers mem with ⟨found, isFound, front, back, rfl⟩
        exact ⟨found, isFound, before ++ piece ++ after ++ [','] ++ front, back, by simp⟩

/-! ### Markers of a setting -/

theorem occurIn_iff {markers : List String} :
    Markers.occurIn markers text = true ↔ ∃ marker ∈ markers, marker.toList <:+: lower text := by
  simp [Markers.occurIn, contains_iff]

theorem markers_of_primaryKey (written : text ∈ keyword "primary key" + keyword "pk") :
    Markers.isPrimaryKey text = true ∧ Markers.isNotNull text = false := by
  rw [Markers.isPrimaryKey, Markers.isNotNull, Markers.occurIn, Markers.occurIn]
  rcases written with long | short
  · rw [lower_of_keyword (by decide) long]
    decide
  · rw [lower_of_keyword (by decide) short]
    decide

theorem markers_of_notNull (written : text ∈ keyword "not null" + keyword "nn") :
    Markers.isPrimaryKey text = false ∧ Markers.isNotNull text = true := by
  rw [Markers.isPrimaryKey, Markers.isNotNull, Markers.occurIn, Markers.occurIn]
  rcases written with long | short
  · rw [lower_of_keyword (by decide) long]
    decide
  · rw [lower_of_keyword (by decide) short]
    decide

/-- A marker that stands in a reference stands in one of its words. -/
theorem infix_of_target {table column : String} (isMarker : IsMarker part)
    (noMark : ∀ char ∈ [':', '>', '.'], char ∉ part) (written : text ∈ writtenTarget table column)
    (isPart : part <:+: lower text) :
    part <:+: "ref".toList ∨ part <:+: lower table.toList ∨ part <:+: lower column.toList := by
  have strip {before text after : List Char} (isBefore : before ∈ blanks) (isAfter : after ∈ blanks)
      (inside : part <:+: lower before ++ (text ++ lower after)) : part <:+: text :=
    infix_of_spaces (lower_mem_blanks isBefore) (lower_mem_blanks isAfter) isMarker.nonempty
      isMarker.first
      isMarker.last inside
  have marks (char : Char) (rest : List Char) (single : lowerChar char = [char]) :
      lower (char :: rest) = char :: lower rest := by
    rw [lower_cons, single]
    rfl
  have lowerNil : lower [] = [] := rfl
  rcases written with ⟨_, _, written⟩
  rcases Language.mem_mul.1 written with ⟨ref, isRef, _, behindRef, rfl⟩
  rcases Language.mem_mul.1 behindRef with ⟨first, isFirst, _, behindFirst, rfl⟩
  rcases Language.mem_mul.1 behindFirst with ⟨_, rfl, _, behindColon, rfl⟩
  rcases Language.mem_mul.1 behindColon with ⟨second, isSecond, _, behindSecond, rfl⟩
  rcases Language.mem_mul.1 behindSecond with ⟨_, rfl, _, behindArrow, rfl⟩
  rcases Language.mem_mul.1 behindArrow with ⟨third, isThird, _, behindThird, rfl⟩
  rcases Language.mem_mul.1 behindThird with ⟨_, rfl, _, behindTable, rfl⟩
  rcases Language.mem_mul.1 behindTable with ⟨_, rfl, _, rfl, rfl⟩
  simp only [lower_append, List.singleton_append, marks ':' _ rfl, marks '>' _ rfl, marks '.' _ rfl,
    lower_of_keyword (by decide) isRef] at isPart
  rw [← List.append_assoc] at isPart
  rcases infix_append_cons (noMark ':' (by decide)) isPart with inRef | isPart
  · exact .inl (strip nil_mem_blanks isFirst inRef)
  rcases infix_append_cons (noMark '>' (by decide)) isPart with inGap | isPart
  · have inNothing : part <:+: [] := strip isSecond nil_mem_blanks (by simpa [lowerNil] using inGap)
    exact .inl (inNothing.trans List.nil_infix)
  rw [← List.append_assoc] at isPart
  rcases infix_append_cons (noMark '.' (by decide)) isPart with inTable | inColumn
  · exact .inr (.inl (strip isThird nil_mem_blanks (by simpa [lowerNil] using inTable)))
  · exact .inr (.inr inColumn)

/-- A word in lower case holds no blank. -/
theorem blank_not_mem_lower {name : List Char} (named : IsWord name) : ' ' ∉ lower name := by
  intro mem
  rcases of_mem_lower mem with ⟨letter, memName, same⟩ | other
  · have inWord := named.2 letter memName
    rw [← isWord_small, ← same] at inWord
    cases inWord
  · exact absurd other (by decide)

/-- The markers of a column. -/
def markers : List String := Markers.primaryKey ++ Markers.notNull

theorem isMarker_of_mem {marker : String} (mem : marker ∈ markers) : IsMarker marker.toList := by
  have nonempty : ∀ marker ∈ markers, marker.toList ≠ [] := by decide
  have noComma : ∀ marker ∈ markers, ',' ∉ marker.toList := by decide
  have firm : ∀ marker ∈ markers,
      (marker.toList.head?.any isSpace || marker.toList.getLast?.any isSpace) = false := by decide
  have isFirm := firm marker mem
  rw [Bool.or_eq_false_iff, Option.any_eq_false, Option.any_eq_false] at isFirm
  exact ⟨nonempty marker mem, noComma marker mem, by simpa using isFirm.1, by simpa using isFirm.2⟩

/-- Every marker holds a blank or one of the short markers, and a quiet word holds none of them. -/
theorem not_infix_of_isQuiet {name : String} (named : IsWord name.toList) (isQuiet : IsQuiet name)
    {marker : String} (mem : marker ∈ markers) : ¬marker.toList <:+: lower name.toList := by
  intro inName
  have parts : ∀ marker ∈ markers, ' ' ∈ marker.toList ∨ contains "pk".toList marker.toList ∨
      contains "nn".toList marker.toList := by decide
  rcases parts marker mem with blank | pk | nn
  · exact blank_not_mem_lower named (inName.subset blank)
  · exact isQuiet.1 ((contains_iff.1 pk).trans inName)
  · exact isQuiet.2 ((contains_iff.1 nn).trans inName)

theorem markers_of_target {table column : String} (isTable : IsWord table.toList)
    (isColumn : IsWord column.toList) (written : text ∈ writtenTarget table column) :
    Markers.isPrimaryKey text = false ∧ Markers.isNotNull text = false := by
  have noMarks : ∀ marker ∈ markers, ∀ char ∈ [':', '>', '.'], char ∉ marker.toList := by decide
  have notInRef : ∀ marker ∈ markers, ¬contains marker.toList "ref".toList := by decide
  have absent {group : List String} (areMarkers : ∀ marker ∈ group, marker ∈ markers) :
      Markers.occurIn group text = false := by
    rw [← Bool.not_eq_true, occurIn_iff]
    rintro ⟨marker, mem, isPart⟩
    have isOne := areMarkers marker mem
    rcases infix_of_target (isMarker_of_mem isOne) (noMarks marker isOne) written isPart with
      inRef | inTable | inColumn
    · exact notInRef marker isOne (contains_iff.2 inRef)
    · exact not_infix_of_isQuiet isTable written.1 isOne inTable
    · exact not_infix_of_isQuiet isColumn written.2.1 isOne inColumn
  exact ⟨absent fun _ mem => List.mem_append_left _ mem, absent fun _ mem =>
    List.mem_append_right _ mem⟩

/-- The names that a setting refers to are words. -/
def Setting.IsNamed : Setting → Prop
  | target table column => IsWord table.toList ∧ IsWord column.toList
  | _ => True

theorem Setting.markers_written {setting : Setting} (isNamed : setting.IsNamed)
    (written : text ∈ setting.written) :
    (Markers.isPrimaryKey text = true ↔ setting = primaryKey) ∧
      (Markers.isNotNull text = true ↔ setting = notNull) := by
  cases setting with
  | primaryKey => simp [markers_of_primaryKey written]
  | notNull => simp [markers_of_notNull written]
  | target table column => simp [markers_of_target isNamed.1 isNamed.2 written]

/-! ### Markers of the options -/

/-- Markers are found in a list of settings when they are found in one of the settings. -/
theorem occurIn_listed {group : List String} (areMarkers : ∀ marker ∈ group, marker ∈ markers)
    {order : List Setting} (written : text ∈ listed (order.map Setting.written)) {told : Setting}
    (each : ∀ setting ∈ order, ∀ piece ∈ setting.written,
      Markers.occurIn group piece = true ↔ setting = told) :
    Markers.occurIn group text = true ↔ told ∈ order := by
  constructor
  · intro found
    rcases occurIn_iff.1 found with ⟨marker, mem, isPart⟩
    rcases exists_of_infix_listed (isMarker_of_mem (areMarkers marker mem)) written isPart with
      ⟨setting, memOrder, piece, isPiece, inPiece⟩
    rw [← (each setting memOrder piece isPiece).1 (occurIn_iff.2 ⟨marker, mem, inPiece⟩)]
    exact memOrder
  · intro memOrder
    rcases exists_infix_of_listed written memOrder with ⟨piece, isPiece, inText⟩
    rcases occurIn_iff.1 ((each told memOrder piece isPiece).2 rfl) with ⟨marker, mem, isPart⟩
    exact occurIn_iff.2 ⟨marker, mem, isPart.trans (infix_lower inText)⟩

/-- The settings of a column are told by the markers in their text. -/
theorem markers_writtenSettings {settings : List Setting}
    (areNamed : ∀ setting ∈ settings, setting.IsNamed) (written : text ∈ writtenSettings settings) :
    (Markers.isPrimaryKey text = true ↔ .primaryKey ∈ settings) ∧
      (Markers.isNotNull text = true ↔ .notNull ∈ settings) := by
  rcases written with ⟨order, isOrder, isListed⟩
  have each : ∀ setting ∈ order, ∀ piece ∈ setting.written, _ := fun setting mem piece isPiece =>
    setting.markers_written (areNamed setting (isOrder.mem_iff.1 mem)) isPiece
  rw [← isOrder.mem_iff, ← isOrder.mem_iff]
  exact ⟨occurIn_listed (fun _ mem => List.mem_append_left _ mem) isListed
      fun setting mem piece isPiece => (each setting mem piece isPiece).1,
    occurIn_listed (fun _ mem => List.mem_append_right _ mem) isListed
      fun setting mem piece isPiece => (each setting mem piece isPiece).2⟩

end Blocks

end Schemagram
