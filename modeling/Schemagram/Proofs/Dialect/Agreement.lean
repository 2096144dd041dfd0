import Schemagram.Proofs.Blocks.Finding
import Schemagram.Proofs.Scan.Parts
import Schemagram.Proofs.Tables.Outline

/-!
# Where the block notations agree

The two block notations differ in the case of the word `Table`, in the second size of a type, in the
members of an enum and in the references.  A text in which the word stands in one case only and no
type has two sizes has the same tables in both, apart from their keys and from the members of their
enums.
-/

namespace Schemagram

open Text Writing
open Scan hiding keyword mark

/-! ### The shape of tables -/

/-- A column without the members of its enum. -/
def Column.withoutMembers (column : Column) : Column := { column with enumValues? := none }

theorem Column.withoutMembers_withEnum (enums : Enums) (column : Column) :
    (column.withEnum enums).withoutMembers =
      { column with isEnum? := some (Keyed.get? column.type enums).isSome, enumValues? :=
        none } := by
  cases found : Keyed.get? column.type enums <;> simp [withEnum, withoutMembers, found]

namespace Table

/-- The name of a table, and its columns without the members of their enums. -/
def shape (table : Table) : Table :=
  { table with columns := table.columns.map Column.withoutMembers, foreignKeys := [] }

/-- The shape of a settled table follows from its outline and the names of the enums. -/
theorem shape_settled (enums : Enums) (tables : List Table) (table : Table) :
    (settled enums tables table).shape = (table.outline.withEnums enums).shape := by
  have sameColumn (column : Column) :
      (column.withoutEnum.withEnum enums).withoutMembers = (column.withEnum
        enums).withoutMembers := by
    rw [Column.withoutMembers_withEnum, Column.withoutMembers_withEnum]
    rfl
  simp [shape, settled, withEnums, withoutDangling, outline, withoutEnums, sameColumn,
    Function.comp_def]

theorem shape_withEnums_congr {enums others : Enums}
    (same : ∀ name, (Keyed.get? name enums).isSome = (Keyed.get? name others).isSome)
    (table : Table) :
    (table.withEnums enums).shape = (table.withEnums others).shape := by
  simp [shape, withEnums, Column.withoutMembers_withEnum, Function.comp_def, same]

/-- The shapes of the tables that are read follow from their outlines before keys have been
attached. -/
theorem map_shape_settle {enums : Enums} {attached read : List Table}
    (keeps : attached.map outline = read.map outline) :
    (settle enums attached).result.map shape = (read.map outline).map fun table =>
    (table.withEnums enums).shape := by
  rw [← keeps, result_settle, List.map_map, List.map_map]
  exact List.map_congr_left fun table _ => shape_settled enums attached table

end Table

namespace Blocks

/-! ### Texts that both notations read alike -/

/-- A text in which the word `Table` stands in one case only, and in which no two sizes stand
between parentheses. -/
structure IsCommon (text : List Char) : Prop where
  opening : ∀ written ∈ keyword "table", written <:+: text → written = "Table".toList
  sizes : ∀ first second, IsDigits first → IsDigits second →
    ¬ '(' :: (first ++ ',' :: (second ++ [')'])) <:+: text

/-- Where the word stands in one case only, the case makes no difference. -/
theorem IsCommon.alike_opening {text : List Char} (isCommon : IsCommon text) :
    Alike text (Scan.keyword "Table") (Scan.exactly "Table") := by
  intro suffix isSuffix
  ext ⟨_, rest⟩
  rw [keyword_eq_some, Scan.exactly, literal_eq_some]
  constructor
  · rintro ⟨written, spelled, rfl⟩
    have inText : written <:+: text :=
      (List.prefix_append written rest).isInfix.trans isSuffix.isInfix
    have isWord : written ∈ keyword "Table" := keyword_of_isSpelling (by decide) spelled
    rw [isCommon.opening written isWord inText]
    exact ⟨_, spelled_exactly.2 rfl, rfl⟩
  · rintro ⟨written, spelled, rfl⟩
    rw [spelled_exactly.1 spelled]
    exact ⟨_, isSpelling_of_keyword (mem_keyword.2 rfl), rfl⟩

/-- Where no type has two sizes, the second one is not missed. -/
theorem alike_precision {text : List Char}
      (noSizes : ∀ first second, IsDigits first → IsDigits second →
      ¬ '(' :: (first ++ ',' :: (second ++ [')'])) <:+: text) :
    Alike text (precision secondDigits) (precision (pure [])) := by
  intro suffix isSuffix
  ext ⟨sizes, left⟩
  simp only [precision, secondDigits, bind_eq_some, mark_eq_some, someRun_eq_some, orElse_eq_some,
    pure_eq_some]
  constructor
  · rintro ⟨_, _, rfl, first, _, ⟨rfl, isFirst, areDigits, ends⟩, more, _, second, _, rest,
      rfl, rfl, rfl⟩
    rcases second with ⟨_, _, rfl, second, _, ⟨rfl, isSecond, areMore, _⟩, rfl, rfl⟩ | ⟨_, rfl, rfl⟩
    · refine absurd ?_ (noSizes first second ⟨isFirst, areDigits⟩ ⟨isSecond, areMore⟩)
      exact .trans ⟨[], rest, by simp⟩ isSuffix.isInfix
    · exact ⟨(), _, rfl, first, _, ⟨rfl, isFirst, areDigits, ends⟩, [], _, ⟨rfl, rfl⟩, (), rest,
        rfl, rfl, rfl⟩
  · rintro ⟨_, _, rfl, first, _, ⟨rfl, isFirst, areDigits, ends⟩, _, _, ⟨rfl, rfl⟩, _, rest,
      rfl, rfl, rfl⟩
    exact ⟨(), _, rfl, first, _, ⟨rfl, isFirst, areDigits, ends⟩, [], _, .inr ⟨rfl, rfl, rfl⟩, (),
      rest, rfl, rfl, rfl⟩

theorem takes_block (opening : String) : Takes (fun _ => True) (block (Scan.keyword opening)) := by
  rintro text rest ⟨name, inside⟩ read
  rcases block_eq_some.1 read with ⟨word, gap, between, rfl, _⟩
  exact ⟨word ++ (gap ++ (name.toList ++ (between ++ '\x7b' :: (inside ++ ['\x7d'])))), by simp,
    fun _ _ => trivial⟩

theorem infix_of_mem_linesOf {inside line : List Char} (mem : line ∈ linesOf inside) :
    line <:+: inside := by
  rcases List.mem_map.1 (List.mem_of_mem_filter mem) with ⟨piece, isPiece, rfl⟩
  exact (trim_isPart piece).trans (infix_of_mem_splitOn isPiece)

variable {text : List Char}

/-- Both notations find the same blocks. -/
theorem IsCommon.all_block (isCommon : IsCommon text) :
    all (block (Scan.keyword "Table")) text = all (block (Scan.exactly "Table")) text :=
  Alike.all (takes_block "Table") (isCommon.alike_opening.bind _)

/-- Both notations read the same column from a line. -/
theorem IsCommon.columnOf (isCommon : IsCommon text) {line : List Char} (inText : line <:+: text) :
    columnOf (precision secondDigits) line = columnOf (precision (pure [])) line := by
  have sizes : Alike line (precision secondDigits) (precision (pure [])) :=
    alike_precision fun first second isFirst isSecond inLine =>
      isCommon.sizes first second isFirst isSecond (inLine.trans inText)
  have words : Takes (fun _ => True) word := takes_word fun _ _ => trivial
  have types : Alike line (type (precision secondDigits)) (type (precision (pure []))) :=
    words.alike fun _ => (sizes.orElse _).bind _
  have gap : Takes (fun _ => True) someSpaces := takes_someSpaces fun _ _ => trivial
  exact Alike.search (words.alike fun _ => gap.alike fun _ => types.bind _)

/-- Both notations read tables of the same outline. -/
theorem IsCommon.outline_tables (isCommon : IsCommon text) :
    (Dbml.tables text).map Table.outline = (Shorthand.tables text).map Table.outline := by
  rw [Dbml.tables, Shorthand.tables, ← isCommon.all_block, List.map_map, List.map_map]
  refine List.map_congr_left fun ⟨name, inside⟩ mem => ?_
  have inText : inside <:+: text := by
    rcases exists_suffix_of_mem_all (takes_block "Table") mem with ⟨suffix, rest, isSuffix, read⟩
    rcases block_eq_some.1 read with ⟨word, gap, between, rfl, _⟩
    exact .trans ⟨word ++ (gap ++ (name.toList ++ (between ++ ['\x7b']))), '\x7d' :: rest, by simp⟩
      isSuffix.isInfix
  have columns : Dbml.columnsOf inside = (Shorthand.tableOf name inside).columns :=
    List.filterMap_congr fun line mem => isCommon.columnOf ((infix_of_mem_linesOf mem).trans inText)
  simp only [Function.comp_apply, columns]
  rfl

/-- Both notations know the same enums. -/
theorem isSome_get?_enums (text : List Char) (name : String) :
    (Keyed.get? name (Dbml.enums text)).isSome =
    (Keyed.get? name (Shorthand.enums text)).isSome := by
  have sameWord : Scan.keyword "Enum" = Scan.keyword "enum" := by
    have capital : isSameLetter 'E' = isSameLetter 'e' := rfl
    change (do let _ ← one (isSameLetter 'E'); Scan.literal isSameLetter "num".toList) =
      do let _ ← one (isSameLetter 'e'); Scan.literal isSameLetter "num".toList
    rw [capital]
  rw [Bool.eq_iff_iff, Dbml.enums, Shorthand.enums, Keyed.isSome_get?_ofPairs,
    Keyed.isSome_get?_ofPairs, sameWord, Keyed.keys, Keyed.keys, List.map_map, List.map_map]
  rfl

end Blocks

theorem Dbml.map_shape_parse (text : List Char) : (parse text).result.map Table.shape =
    ((tables text).map Table.outline).map fun table => (table.withEnums (enums text)).shape := by
  refine Table.map_shape_settle (Table.outline_foldlM (fun tables reference => ?_) _ _)
  exact Table.outline_attach tables reference.owner reference.key

theorem Shorthand.map_shape_parse (text : List Char) : (parse text).result.map Table.shape =
    ((tables text).map Table.outline).map fun table => (table.withEnums (enums text)).shape := by
  refine Table.map_shape_settle (Table.outline_foldlM (fun tables written => ?_) _ _)
  unfold attach
  dsimp only
  split
  · exact Table.outline_attach tables written.2.source.1 written.2.key
  · rfl

namespace Blocks

variable {text : List Char}

/-- Both notations read tables of the same shape. -/
theorem IsCommon.map_shape_parse (isCommon : IsCommon text) :
    (Dbml.parse text).result.map Table.shape = (Shorthand.parse text).result.map Table.shape := by
  rw [Dbml.map_shape_parse, Shorthand.map_shape_parse, isCommon.outline_tables]
  exact List.map_congr_left fun table _ =>
    Table.shape_withEnums_congr (isSome_get?_enums text) table

/-- The word is looked for at every place of a text. -/
theorem opening_of_tails (spelled : ∀ tail ∈ text.tails,
      (tail.take 5).map small = "table".toList → tail.take 5 = "Table".toList) :
    ∀ written ∈ keyword "table", written <:+: text → written = "Table".toList := by
  rintro written isWord ⟨before, after, rfl⟩
  have five : written.length = 5 := by simpa using congrArg List.length (mem_keyword.1 isWord)
  have isTail : written ++ after ∈ (before ++ written ++ after).tails := by
    rw [List.mem_tails, List.append_assoc]
    exact List.suffix_append before _
  have atTail := spelled _ isTail
  rw [List.take_left' five] at atTail
  exact atTail ((mem_keyword.1 isWord).trans (by decide))

end Blocks

namespace Schema

/-- A text in which the word `Table` stands in one case only and no type has two sizes has tables of
the same shape in both block notations, whichever of them is asked for or detected. -/
theorem shape_of_isCommon {text : String} (isCommon : Blocks.IsCommon text.toList) :
    (Dbml.parse text.toList).result.map Table.shape = (Shorthand.parse text.toList).result.map
      Table.shape ∧
    (Dialect.detect text.toList ≠ .sql → ∀ dialect, dialect ≠ .sql →
      (parse text none).result.map Table.shape = (parse text (some dialect)).result.map
        Table.shape) := by
  refine ⟨isCommon.map_shape_parse, fun notSql dialect notAsked => ?_⟩
  have asShorthand (dialect : Dialect) (notSql : dialect ≠ .sql) :
      (dialect.parse text.toList).result.map Table.shape =
        (Shorthand.parse text.toList).result.map Table.shape := by
    cases dialect with
    | sql => exact absurd rfl notSql
    | dbml => exact isCommon.map_shape_parse
    | shorthand => rfl
  have detected : (parse text none).result =
      ((Dialect.detect text.toList).parse text.toList).result := by
    simp [parse, Dialect.detected, Logged.result_bind]
  have asked : (parse text (some dialect)).result = (dialect.parse text.toList).result := by
    simp [parse]
  rw [detected, asked, asShorthand _ notSql, asShorthand _ notAsked]

/-- A text whose enum has other members in either notation, and whose key is read in one of them
only. -/
def commonText : String := "Enum mood \x7b
  ok
  sad
\x7d
Table a \x7b
  id int [pk]
  feels mood
  code varchar(20) [nn]
\x7d
Table b \x7b
  a_id int [ref: > a.id]
\x7d"

theorem isCommon_commonText : Blocks.IsCommon commonText.toList where
  opening := Blocks.opening_of_tails (by decide +kernel)
  sizes := by
    intro first second _ _ isPart
    have noComma : ',' ∉ commonText.toList := by decide +kernel
    exact noComma (isPart.subset (by simp))

theorem shape_of_commonText :
    (Dbml.parse commonText.toList).result.map Table.shape =
      (Shorthand.parse commonText.toList).result.map Table.shape ∧
    (parse commonText none).result.map Table.shape =
      (parse commonText (some .shorthand)).result.map Table.shape :=
  ⟨(shape_of_isCommon isCommon_commonText).1,
    (shape_of_isCommon isCommon_commonText).2 (by decide +kernel) .shorthand (by decide)⟩

end Schema

end Schemagram
