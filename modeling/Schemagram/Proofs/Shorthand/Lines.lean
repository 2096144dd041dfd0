import Schemagram.Proofs.Shorthand.Arrows

/-!
# Lines are read in shorthand

A line gives a column, and the key that stands in its options.  The options hold one reference at
most, whose colon is the only one of the line.
-/

namespace Schemagram.Shorthand

open Text Writing Blocks
open Scan hiding keyword mark

variable {text rest : List Char}

/-! ### Arrows of a line -/

theorem guarded_setting {setting : Setting} (isNamed : setting.IsNamed) :
    Guarded setting.written := by
  have outside : ∀ char ∈ arrows, isPlain char = false := by decide
  cases setting with
  | primaryKey => exact guarded_of_free (free_setting outside isNamed (by simp))
  | notNull => exact guarded_of_free (free_setting outside isNamed (by simp))
  | target table column => exact guarded_target isNamed.1 isNamed.2

theorem guarded_options {settings : List Setting}
    (areNamed : ∀ setting ∈ settings, setting.IsNamed) :
    Guarded (writtenOptions settings) := by
  have spaces : Guarded blanks := guarded_of_free (free_blanks (by decide))
  have marked {char : Char} (noArrow : char ∉ arrows) : Guarded (mark char) :=
    guarded_of_free (free_mark noArrow)
  have inside : Guarded (writtenSettings settings) := by
    rintro text ⟨order, isOrder, written⟩
    apply listed_of_mul Guarded.mul (fun _ empty => nomatch empty) spaces (marked (by decide)) _
      text written
    intro language mem
    rcases List.mem_map.1 mem with ⟨setting, memOrder, rfl⟩
    exact guarded_setting (areNamed setting (isOrder.mem_iff.1 memOrder))
  unfold writtenOptions
  split
  · exact guarded_of_free free_one
  · exact spaces.mul ((marked (by decide)).mul (inside.mul (marked (by decide))))

theorem guarded_line {line : Line} (isReadable : line.IsReadable HasOneSize) :
    Guarded line.written := by
  have spaces : Guarded blank := guarded_of_free (free_blank (by decide))
  have name : Guarded (exactly line.column.name.toList) :=
    guarded_of_free (free_word (by decide) isReadable.name)
  have type : Guarded (exactly line.column.type.toList) :=
    guarded_of_free (isReadable.type.free (by decide))
  have guarded := name.mul (spaces.mul (type.mul (guarded_options isReadable.areNamed)))
  exact fun text written => guarded text written.1

/-! ### References in the options -/

/-- A list of settings with a target holds its reference, with no colon before it. -/
theorem exists_target_of_listed {order : List Setting} {table column : String}
    (only : ∀ setting ∈ order, setting ≠ .target table column → setting = .primaryKey ∨
      setting = .notNull)
    (mem : .target table column ∈ order) (written : text ∈ listed (order.map Setting.written)) :
    ∃ front reference back, text = front ++ (reference ++ back) ∧ ':' ∉ front ∧
      reference ∈ writtenTarget table column ∧ ∀ more, Ends isWord more →
      Ends isWord (back ++ more) := by
  have noColon {setting : Setting} (other : setting = .primaryKey ∨ setting = .notNull) :
      Free [':'] setting.written := by
    rcases other with rfl | rfl
    · exact free_setting (by decide) trivial (by simp)
    · exact free_setting (by decide) trivial (by simp)
  have spaces {part : List Char} (isSpaces : part ∈ blanks) : ':' ∉ part :=
    (free_blanks (by decide) : Free [':'] blanks).not_mem isSpaces List.mem_cons_self
  induction order generalizing text with
  | nil => cases mem
  | cons first more ih =>
    cases more with
    | nil =>
      rcases Language.mem_mul.1 written with ⟨before, isBefore, _, inner, rfl⟩
      rcases Language.mem_mul.1 inner with ⟨piece, isPiece, after, isAfter, rfl⟩
      rw [List.mem_singleton] at mem
      subst mem
      exact ⟨before, piece, after, rfl, spaces isBefore, isPiece,
        fun more ends => ends_blanks (fun _ => isWord_of_isSpace) isAfter ends⟩
    | cons second more =>
      rw [List.map_cons, List.map_cons, listed_cons_cons] at written
      rcases Language.mem_mul.1 written with ⟨before, isBefore, _, inner, rfl⟩
      rcases Language.mem_mul.1 inner with ⟨piece, isPiece, _, behindPiece, rfl⟩
      rcases Language.mem_mul.1 behindPiece with ⟨after, isAfter, _, behindGap, rfl⟩
      rcases Language.mem_mul.1 behindGap with ⟨_, rfl, others, isOthers, rfl⟩
      by_cases isTarget : first = .target table column
      · subst isTarget
        refine ⟨before, piece, after ++ ([','] ++ others), rfl, spaces isBefore, isPiece,
          fun more _ => ?_⟩
        rw [List.append_assoc]
        exact ends_blanks (fun _ => isWord_of_isSpace) isAfter (ends_cons.2 (by decide))
      · have memMore := (List.mem_cons.1 mem).resolve_left (Ne.symm isTarget)
        rcases ih (fun setting inMore => only setting (List.mem_cons_of_mem first inMore)) memMore
          isOthers with
          ⟨front, reference, back, rfl, noColonFront, isReference, ends⟩
        have noColonPiece : ':' ∉ piece :=
          (noColon (only first List.mem_cons_self isTarget)).not_mem isPiece List.mem_cons_self
        refine ⟨before ++ (piece ++ (after ++ (',' :: front))), reference, back, by simp, ?_,
          isReference, ends⟩
        simp [spaces isBefore, noColonPiece, spaces isAfter, noColonFront]

/-- A reference in the options of a column is read as it is written. -/
theorem optionReference_append {table column : String} (isTable : IsWord table.toList)
    (isColumn : IsWord column.toList) (written : text ∈ writtenTarget table column)
    (ends : Ends isWord rest) :
    optionReference (text ++ rest) = some (⟨'>', table, column⟩, rest) := by
  rcases written with ⟨_, _, written⟩
  rcases Language.mem_mul.1 written with ⟨ref, isRef, _, behindRef, rfl⟩
  rcases Language.mem_mul.1 behindRef with ⟨first, isFirst, _, behindFirst, rfl⟩
  rcases Language.mem_mul.1 behindFirst with ⟨_, rfl, _, behindColon, rfl⟩
  rcases Language.mem_mul.1 behindColon with ⟨second, isSecond, _, behindSecond, rfl⟩
  rcases Language.mem_mul.1 behindSecond with ⟨_, rfl, _, behindArrow, rfl⟩
  rcases Language.mem_mul.1 behindArrow with ⟨third, isThird, last, isLast, rfl⟩
  simp only [optionReference, target, arrow, bind_eq_some, pure_eq_some, List.append_assoc,
    List.cons_append, List.nil_append]
  exact ⟨(), _, orElse_eq_some.2 (.inl (keyword_append isRef _)), (), _,
    spaces_append isFirst (ends_cons.2 (by decide)), (), _, mark_cons ':' _, (), _,
    spaces_append isSecond (ends_cons.2 (by decide)), '>', _, one_eq_some.2 ⟨rfl, by decide⟩, (), _,
    spaces_append isThird (ends_writtenDotted isTable isLast), _, rest,
    dotted_append isTable isColumn isLast ends, rfl, rfl⟩

/-- A reference in options begins with a word of three letters at most, up to its colon. -/
theorem exists_of_optionReference {found : Target}
    (read : optionReference text = some (found, rest)) :
    ∃ word gap after, text = word ++ (gap ++ ':' :: after) ∧ IsWord word ∧ word.length ≤ 3 ∧
    gap ∈ blanks := by
  have isShort {name : String} {word : List Char} (letters : IsWord name.toList)
      (short : name.toList.length ≤ 3)
      (spelled : IsSpelling name word) : IsWord word ∧ word.length ≤ 3 := by
    have length := List.Forall₂.length_eq spelled
    exact ⟨isWord_of_spelled letters spelled, by omega⟩
  simp only [optionReference, bind_eq_some, orElse_eq_some, keyword_eq_some] at read
  rcases read with ⟨_, _, readWord, _, _, readGap, _, after, readColon, _⟩
  rcases spaces_eq_some.1 readGap with ⟨gap, rfl, isGap, _⟩
  rw [mark_eq_some.1 readColon] at readWord
  rcases readWord with ⟨word, spelled, rfl⟩ | ⟨_, word, spelled, rfl⟩
  · have short := isShort (by decide) (by decide) spelled
    exact ⟨word, gap, after, rfl, short.1, short.2, isGap⟩
  · have short := isShort (by decide) (by decide) spelled
    exact ⟨word, gap, after, rfl, short.1, short.2, isGap⟩

/-- A reference in the options of a column is found behind a text without a colon. -/
theorem search_optionReference {front : List Char} {table column : String}
    (isTable : IsWord table.toList) (isColumn : IsWord column.toList) (noColon : ':' ∉ front)
    (written : text ∈ writtenTarget table column) (ends : Ends isWord rest) :
    search optionReference (front ++ (text ++ rest)) = some ⟨'>', table, column⟩ := by
  rw [search_append_of_none, search_of_some (optionReference_append isTable isColumn written ends)]
  intro suffix isSuffix nonempty
  rw [Option.eq_none_iff_forall_ne_some]
  rintro ⟨found, left⟩ read
  rcases exists_of_optionReference read with ⟨word, gap, after, split, isWord, short, isGap⟩
  rcases Language.mem_mul.1 written.2.2 with ⟨ref, isRef, _, behindRef, rfl⟩
  rcases Language.mem_mul.1 behindRef with ⟨first, isFirst, _, behindFirst, rfl⟩
  rcases Language.mem_mul.1 behindFirst with ⟨_, rfl, more, _, rfl⟩
  have isRefWord : IsWord ref := isWord_of_keyword (by decide) isRef
  have length : ref.length = 3 := (List.Forall₂.length_eq (isSpelling_of_keyword isRef)).symm
  -- The colon is the first one, and the words before it end at one place.
  have noColonBefore : ':' ∉ (suffix ++ ref) ++ first := by
    simp only [List.mem_append, not_or]
    exact ⟨⟨fun mem => noColon (isSuffix.subset mem), not_mem_of_run isRefWord.2 (by decide)⟩,
      not_mem_of_run isFirst (by decide)⟩
  have noColonWord : ':' ∉ word ++ gap := by
    rw [List.mem_append, not_or]
    exact ⟨not_mem_of_run isWord.2 (by decide), not_mem_of_run isGap (by decide)⟩
  have parts : ((suffix ++ ref) ++ first) ++ ':' :: (more ++ rest) = (word ++ gap) ++
      ':' :: after := by
    simpa using split
  have cut := (append_cons_inj noColonBefore noColonWord parts).1
  have refEnd : Firm (suffix ++ ref) := (firm_word isRefWord).append (by simp [isRefWord.1])
  have lengths := congrArg List.length
    (append_run_inj refEnd (firm_word isWord) isFirst isGap cut).1
  rw [List.length_append, length] at lengths
  exact nonempty (List.length_eq_zero_iff.1 (by omega))

/-- The options of a line with a target hold its reference, and no colon stands before it. -/
theorem search_written {line : Line} (isReadable : line.IsReadable HasOneSize)
    {table column : String} (isTarget : line.target? = some (table, column))
    (written : text ∈ line.written) :
    search optionReference text = some ⟨'>', table, column⟩ := by
  rcases isReadable.target _ isTarget with ⟨isTable, isColumn⟩
  rcases written with ⟨written, _⟩
  rcases Language.mem_mul.1 written with ⟨_, rfl, _, behindName, rfl⟩
  rcases Language.mem_mul.1 behindName with ⟨gap, isGap, _, behindGap, rfl⟩
  rcases Language.mem_mul.1 behindGap with ⟨_, rfl, last, isLast, rfl⟩
  have inSettings := target_mem_settings.2 isTarget
  rcases exists_of_mem_writtenOptions isLast with
    ⟨noSettings, _⟩ | ⟨before, isBefore, inside, isInside, rfl⟩
  · rw [noSettings] at inSettings
    cases inSettings
  rcases isInside with ⟨order, isOrder, isListed⟩
  have only : ∀ setting ∈ order, setting ≠ .target table column → setting = .primaryKey ∨
      setting = .notNull := by
    intro setting mem other
    have memSettings := isOrder.mem_iff.1 mem
    simp only [Line.settings, isTarget, List.mem_append, List.mem_map, Option.mem_toList,
      Option.some.injEq] at memSettings
    rcases memSettings with (mem | mem) | ⟨_, rfl, rfl⟩
    · split at mem <;> simp_all
    · split at mem <;> simp_all
    · exact absurd rfl other
  rcases exists_target_of_listed only (isOrder.mem_iff.2 inSettings) isListed with
    ⟨front, reference, back, rfl, noColonFront, isReference, ends⟩
  have colon {language : Language Char} {part : List Char} (free : Free [':'] language)
      (isPart : part ∈ language) :
      ':' ∉ part := free.not_mem isPart List.mem_cons_self
  have noColon : ':' ∉ line.column.name.toList ++
      (gap ++ (line.column.type.toList ++ (before ++ '[' :: front))) := by
    have noColonType : ':' ∉ line.column.type.toList := colon (isReadable.type.free (by decide)) rfl
    simp [colon (free_word (by decide) isReadable.name) rfl, colon (free_blank (by decide)) isGap,
      noColonType, colon (free_blanks (by decide)) isBefore, noColonFront]
  have found := search_optionReference isTable isColumn noColon isReference
    (ends [']'] (ends_cons.2 (by decide)))
  simpa using found

/-- A line makes the key that its options say. -/
theorem lineKey?_written {line : Line} (isReadable : line.IsReadable HasOneSize)
    (written : text ∈ line.written) :
    lineKey? text (some line.column.withoutEnum) = line.key? := by
  have noReference : search inlineReference text = none := by
    rw [search_eq_none]
    rintro suffix ⟨before, rfl⟩
    rw [Option.eq_none_iff_forall_ne_some]
    rintro ⟨found, left⟩ read
    exact (guarded_line isReadable _ written).not_isUnguarded (isUnguarded_of_inlineReference read)
  rw [lineKey?, noReference, Line.key?]
  cases isTarget : line.target? with
  | none =>
    have noColon : ':' ∉ text := by
      have free : Free [':'] line.written :=
        free_line (by decide) (fun _ isType => isType.1) isReadable (by simp [isTarget])
      exact free.not_mem written List.mem_cons_self
    have noOption : search optionReference text = none := by
      rw [search_eq_none]
      intro suffix isSuffix
      rw [Option.eq_none_iff_forall_ne_some]
      rintro ⟨found, left⟩ read
      rcases exists_of_optionReference read with ⟨_, _, _, rfl, _⟩
      exact noColon (isSuffix.subset (by simp))
    simp [noOption]
  | some target =>
    simp [search_written isReadable isTarget written, keyOf?, Column.withoutEnum]

/-- The table of a block is read with the keys that stand in it. -/
theorem tableOf_written {table : Table} (isTable : IsTable HasOneSize relations table)
    (written : text ∈ writtenLines table) : tableOf table.name text = table.withoutEnums := by
  have readColumns := isTable.columns_read readsTypes_oneSize (fun _ isType => isType.1) written
  rcases isTable.exists_lines (fun _ isType => isType.1) written with
    ⟨lines, _, sameKeys, areReadable, areWritten⟩
  have readKeys := filterMap_eq_of_forall₂ areWritten fun line mem text isText =>
    show lineKey? text (column? text) = line.key? by
      have isColumn : column? text = some line.column.withoutEnum :=
        search_of_some (column_append readsTypes_oneSize (fun _ isType => isType.1)
          (areReadable line mem) isText)
      rw [isColumn, lineKey?_written (areReadable line mem) isText]
  rw [sameKeys] at readKeys
  change Table.mk table.name ((linesOf text).filterMap (columnOf (precision (pure [])))) _ = _
  rw [readColumns, readKeys, Table.withoutEnums]

end Schemagram.Shorthand
