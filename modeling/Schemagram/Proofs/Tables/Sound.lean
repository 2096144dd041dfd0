import Schemagram.Proofs.Tables.AsRead
import Schemagram.Proofs.Tables.Binding

/-!
# What holds of every list of tables that is read

Whatever the text and whatever the dialect, names are words, types have one of three forms, every
foreign key leads to a column that was read, and columns of one type agree about their enum.

Attaching keys keeps the forms that the scans give; dropping the keys that lead nowhere changes no
table and no column, so that the keys which are kept still lead somewhere afterwards; and enums are
attached to all columns from one registry.
-/

namespace Schemagram

open Text

/-! ### What is promised -/

/-- A column that was read: its forms are kept, and it has members exactly if its type is an
enum. -/
structure Column.Sound (column : Column) : Prop where
  name : IsWord column.name.toList
  type : IsType column.type.toList
  isEnum : column.isEnum?.isSome = true
  enumValues : column.enumValues?.isSome = true ↔ column.isEnum? = some true
  members : ∀ members, column.enumValues? = some members → ∀ member ∈ members, member ≠ ""

/-- A key leads to a column of the first table of the name that it refers to. -/
def ForeignKey.Leads (tables : List Table) (key : ForeignKey) : Prop :=
  ∃ target, Table.find? tables key.referenceTable = some target ∧
    ∃ column ∈ target.columns, column.name = key.referenceColumn

/-- Tables that were read, whatever the text. -/
structure Table.Sound (tables : List Table) : Prop where
  names : ∀ table ∈ tables, IsWord table.name.toList
  columns : ∀ table ∈ tables, ∀ column ∈ table.columns, column.Sound
  keys : ∀ table ∈ tables, ∀ key ∈ table.foreignKeys, IsWord key.column.toList ∧ key.Leads tables
  sameEnum : ∀ table ∈ tables, ∀ column ∈ table.columns, ∀ other ∈ tables, ∀ second ∈ other.columns,
    column.type = second.type →
      column.isEnum? = second.isEnum? ∧ column.enumValues? = second.enumValues?

/-! ### Attaching keys -/

theorem Table.AsRead.withKey {table : Table} (asRead : table.AsRead) {key : ForeignKey}
    (isWord : IsWord key.column.toList) : (table.withKey key).AsRead := by
  refine ⟨asRead.name, asRead.columns, ?_⟩
  intro other mem
  rcases List.mem_append.1 mem with old | new
  · exact asRead.keys other old
  · cases List.mem_singleton.1 new
    exact isWord

theorem Table.asRead_attach {tables : List Table} (asRead : ∀ table ∈ tables, table.AsRead)
    (owner : String) {key : ForeignKey} (isWord : IsWord key.column.toList) :
    ∀ table ∈ (attach tables owner key).result, table.AsRead := by
  rcases result_attach tables owner key with same | ⟨before, table, after, rfl, attached⟩
  · rw [same]
    exact asRead
  · rw [attached]
    intro other mem
    simp only [List.mem_append, List.mem_cons] at asRead mem
    rcases mem with old | rfl | old
    · exact asRead other (.inl old)
    · exact (asRead table (.inr (.inl rfl))).withKey isWord
    · exact asRead other (.inr (.inr old))

theorem Shorthand.asRead_attach {tables : List Table} (asRead : ∀ table ∈ tables, table.AsRead)
    {written : List Char × Reference} (isWord : IsWord written.2.key.column.toList) :
    ∀ table ∈ (attach tables written).result, table.AsRead := by
  simp only [attach]
  split
  · exact Table.asRead_attach asRead _ isWord
  · exact asRead

/-- What every step of a fold keeps holds at its end. -/
theorem Table.asRead_foldlM {Item : Type} {step : List Table → Item → Logged (List Table)}
    {items : List Item}
    (keeps : ∀ tables, (∀ table ∈ tables, table.AsRead) → ∀ item ∈ items,
      ∀ table ∈ (step tables item).result, table.AsRead)
    {tables : List Table} (asRead : ∀ table ∈ tables, table.AsRead) :
    ∀ table ∈ (items.foldlM step tables).result, table.AsRead := by
  rw [Logged.result_foldlM]
  exact List.foldlRecOn items _ (motive := fun tables => ∀ table ∈ tables, table.AsRead) asRead
    (fun tables asRead item mem => keeps tables asRead item mem)

/-! ### Settling tables -/

/-- No declared enum has an empty member. -/
def Enums.Sound (enums : Enums) : Prop :=
  ∀ type members, Keyed.get? type enums = some members → ∀ member ∈ members, member ≠ ""

theorem Enums.sound_ofPairs {pairs : List (String × List String)}
    (nonempty : ∀ pair ∈ pairs, ∀ member ∈ pair.2, member ≠ "") :
    Enums.Sound (Keyed.ofPairs pairs) := by
  intro type members found
  rw [Keyed.get?_ofPairs] at found
  rcases Option.map_eq_some_iff.1 found with ⟨pair, isLast, rfl⟩
  exact nonempty pair (List.mem_reverse.1 (List.mem_of_find?_eq_some isLast))

/-- Members that are filtered for being nonempty are nonempty. -/
theorem member_ne_empty {pieces : List (List Char)} {member : String}
    (mem : member ∈ (pieces.filter (!·.isEmpty)).map String.ofList) : member ≠ "" := by
  rcases List.mem_map.1 mem with ⟨piece, kept, rfl⟩
  intro isEmpty
  have noChars : piece = [] := by simpa using congrArg String.toList isEmpty
  simp [noChars] at kept

theorem Sql.sound_enums (text : List Char) : Enums.Sound (Sql.enums text) := by
  apply Enums.sound_ofPairs
  intro pair mem
  rcases List.mem_map.1 mem with ⟨⟨name, written⟩, _, rfl⟩
  exact fun _ => member_ne_empty

theorem Dbml.sound_enums (text : List Char) : Enums.Sound (Dbml.enums text) := by
  apply Enums.sound_ofPairs
  intro pair mem
  rcases List.mem_map.1 mem with ⟨⟨name, inside⟩, _, rfl⟩
  exact fun _ => member_ne_empty

theorem Shorthand.sound_enums (text : List Char) : Enums.Sound (Shorthand.enums text) := by
  apply Enums.sound_ofPairs
  intro pair mem
  rcases List.mem_map.1 mem with ⟨⟨name, inside⟩, _, rfl⟩
  exact fun _ => member_ne_empty

theorem Column.isEnum?_withEnum (enums : Enums) (column : Column) :
    (column.withEnum enums).isEnum? = some (Keyed.get? column.type enums).isSome := by
  unfold withEnum
  cases Keyed.get? column.type enums with
  | some members => rfl
  | none => rfl

theorem Column.AsRead.enumValues?_withEnum {column : Column} (asRead : column.AsRead)
    (enums : Enums) :
    (column.withEnum enums).enumValues? = Keyed.get? column.type enums := by
  unfold withEnum
  cases Keyed.get? column.type enums with
  | some members => rfl
  | none => exact asRead.enumValues

theorem Column.AsRead.sound_withEnum {column : Column} (asRead : column.AsRead) {enums : Enums}
    (sound : enums.Sound) : (column.withEnum enums).Sound := by
  refine ⟨?_, ?_, ?_, ?_, ?_⟩
  · rw [name_withEnum]
    exact asRead.name
  · rw [type_withEnum]
    exact asRead.type
  · rw [isEnum?_withEnum]
    rfl
  · rw [isEnum?_withEnum, asRead.enumValues?_withEnum, Option.some.injEq]
  · rw [asRead.enumValues?_withEnum]
    exact sound column.type

theorem Table.sound_settle {enums : Enums} (sound : enums.Sound) {tables : List Table}
    (asRead : ∀ table ∈ tables, table.AsRead) : Table.Sound (settle enums tables).result := by
  -- Every settled table comes from one that was read, and every column from one of its columns.
  have ofTable : ∀ table ∈ (settle enums tables).result,
      ∃ before ∈ tables, settled enums tables before = table := by
    rw [result_settle]
    exact fun table mem => List.mem_map.1 mem
  have ofColumn : ∀ table ∈ (settle enums tables).result, ∀ column ∈ table.columns,
      ∃ before : Column, before.AsRead ∧ before.withEnum enums = column := by
    intro table mem column memColumn
    rcases ofTable table mem with ⟨before, memBefore, rfl⟩
    rcases List.mem_map.1 memColumn with ⟨first, memFirst, rfl⟩
    exact ⟨first, (asRead before memBefore).columns first memFirst, rfl⟩
  refine ⟨?_, ?_, ?_, ?_⟩
  · intro table mem
    rcases ofTable table mem with ⟨before, memBefore, rfl⟩
    exact (asRead before memBefore).name
  · intro table mem column memColumn
    rcases ofColumn table mem column memColumn with ⟨before, beforeRead, rfl⟩
    exact beforeRead.sound_withEnum sound
  · intro table mem key memKey
    rcases ofTable table mem with ⟨before, memBefore, rfl⟩
    rw [foreignKeys_settled, List.mem_filter, Option.isNone_iff_eq_none] at memKey
    rcases memKey with ⟨memBeforeKey, resolved⟩
    refine ⟨(asRead before memBefore).keys key memBeforeKey, unresolved?_eq_none.1 ?_⟩
    rw [unresolved?_settle]
    exact resolved
  · intro table mem column memColumn other memOther second memSecond sameType
    rcases ofColumn table mem column memColumn with ⟨first, firstRead, rfl⟩
    rcases ofColumn other memOther second memSecond with ⟨last, lastRead, rfl⟩
    rw [Column.type_withEnum, Column.type_withEnum] at sameType
    rw [Column.isEnum?_withEnum, Column.isEnum?_withEnum, firstRead.enumValues?_withEnum,
      lastRead.enumValues?_withEnum, sameType]
    exact ⟨rfl, rfl⟩

/-! ### Reading -/

theorem Sql.sound_parse (text : List Char) : Table.Sound (Sql.parse text).result :=
  Table.sound_settle (Sql.sound_enums text) (Sql.asRead_tables text)

theorem Dbml.sound_parse (text : List Char) : Table.Sound (Dbml.parse text).result := by
  refine Table.sound_settle (Dbml.sound_enums text)
    (Table.asRead_foldlM ?_ (Dbml.asRead_tables text))
  intro tables asRead reference mem
  exact Table.asRead_attach asRead _ (Dbml.isWord_of_reference mem)

theorem Shorthand.sound_parse (text : List Char) : Table.Sound (Shorthand.parse text).result := by
  refine Table.sound_settle (Shorthand.sound_enums text)
    (Table.asRead_foldlM ?_ (Shorthand.asRead_tables text))
  intro tables asRead written mem
  exact Shorthand.asRead_attach asRead (Shorthand.isWord_of_reference mem)

theorem Dialect.sound_parse (dialect : Dialect) (text : List Char) :
    Table.Sound (dialect.parse text).result := by
  cases dialect with
  | sql => exact Sql.sound_parse text
  | dbml => exact Dbml.sound_parse text
  | shorthand => exact Shorthand.sound_parse text

/-- A text is read in the given dialect, or in the detected one. -/
theorem Schema.result_parse (text : String) (dialect? : Option Dialect) :
    (parse text dialect?).result =
      ((dialect?.getD (Dialect.detect text.toList)).parse text.toList).result := by
  cases dialect? <;> rfl

/-- What holds of the tables of every text, whatever its dialect. -/
theorem Schema.parse_sound (text : String) (dialect? : Option Dialect) :
    Table.Sound (parse text dialect?).result := by
  rw [Schema.result_parse]
  exact Dialect.sound_parse _ text.toList

end Schemagram
