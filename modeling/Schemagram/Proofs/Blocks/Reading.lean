import Schemagram.Proofs.Blocks.Finding
import Schemagram.Proofs.Blocks.Lines

/-!
# Tables of a schema in blocks

What the statements of a schema are made of, the columns that are read from the lines of a block,
and the tables that result when the keys and the enums have been attached.
-/

namespace Schemagram.Blocks

open Text Writing
open Scan hiding keyword mark

/-! ### Statements -/

/-- A member that the enums of a notation can have. -/
def IsMember (marks : List Char) (member : String) : Prop :=
  member ≠ "" ∧ trim member.toList = member.toList ∧ ∀ char ∈ member.toList, char ∉ marks

/-- A key of which a reference can tell the names and the kind. -/
structure IsReference (relations : List RelationType) (key : ForeignKey) : Prop where
  column : IsWord key.column.toList
  table : IsWord key.referenceTable.toList
  referenced : IsWord key.referenceColumn.toList
  relation : ∃ relation ∈ relations, key.relation? = some relation

/-- A table whose lines can be written. -/
structure IsTable (isType : List Char → Prop) (relations : List RelationType) (table : Table) :
    Prop where
  name : IsWord table.name.toList
  columns : ∀ column ∈ table.columns, IsWord column.name.toList ∧ isType column.type.toList
  keys : ∀ key ∈ table.foreignKeys, IsReference relations key

/-- A statement that can be written. -/
def Statement.IsReadable (isType : List Char → Prop) (relations : List RelationType)
    (marks : List Char) :
    Statement → Prop
  | ofEnum name members => IsWord name.toList ∧ ∀ member ∈ members, IsMember marks member
  | ofTable table => IsTable isType relations table
  | ofKey owner key => IsWord owner.toList ∧ IsReference relations key

variable {isType : List Char → Prop} {relations : List RelationType} {marks : List Char}
  {statements : List Statement}

theorem mem_of_mem_keys {owner : String} {key : ForeignKey}
    (mem : (owner, key) ∈ statements.filterMap Statement.key?) : .ofKey owner key ∈ statements := by
  rcases List.mem_filterMap.1 mem with ⟨statement, memStatement, isKey⟩
  cases statement with
  | ofKey other otherKey =>
    cases isKey
    exact memStatement
  | _ => cases isKey

namespace IsSchema

theorem isReference (isSchema : IsSchema isType relations marks statements) {table : Table}
    (memTable : table ∈ tablesOf statements) {key : ForeignKey} (mem : key ∈ table.foreignKeys) :
    IsReference relations key := by
  have isKey := isSchema.keys table memTable key mem
  rcases isKey.leads with ⟨target, isFirst, column, memColumn, sameColumn⟩
  have memTarget : target ∈ tablesOf statements := List.mem_of_find?_eq_some isFirst
  have sameTable : target.name = key.referenceTable := by simpa using List.find?_some isFirst
  refine ⟨isKey.column, ?_, ?_, isKey.relation⟩
  · rw [← sameTable]
    exact isSchema.tableNames target memTarget
  · rw [← sameColumn]
    exact (isSchema.columns target memTarget column memColumn).name

/-- The key of a reference is one of the keys of its owner. -/
theorem exists_owner (isSchema : IsSchema isType relations marks statements) {owner : String}
    {key : ForeignKey} (mem : .ofKey owner key ∈ statements) :
    ∃ table ∈ tablesOf statements, table.name = owner ∧ key ∈ table.foreignKeys := by
  rcases isSchema.owners owner key mem with ⟨table, memTable, rfl⟩
  refine ⟨table, memTable, rfl, ?_⟩
  rcases List.mem_map.1 memTable with ⟨block, _, rfl⟩
  have memKeys : (block.name, key) ∈ statements.filterMap Statement.key? :=
    List.mem_filterMap.2 ⟨_, mem, rfl⟩
  exact List.mem_append_right _ (List.mem_map.2 ⟨_, List.mem_filter.2 ⟨memKeys, by simp⟩, rfl⟩)

/-- A reference stands between tables of the schema. -/
theorem isKnown (isSchema : IsSchema isType relations marks statements) {owner : String}
    {key : ForeignKey} (mem : .ofKey owner key ∈ statements) :
    owner ∈ (tablesOf statements).map Table.name ∧
    key.referenceTable ∈ (tablesOf statements).map Table.name := by
  rcases isSchema.exists_owner mem with ⟨table, memTable, sameName, memKey⟩
  rcases (isSchema.keys table memTable key memKey).leads with ⟨target, isFirst, _⟩
  rw [← Table.isSome_find?, ← Table.isSome_find?, isFirst, Table.isSome_find?, ← sameName]
  exact ⟨List.mem_map_of_mem memTable, rfl⟩

theorem isReadable (isSchema : IsSchema isType relations marks statements) :
    ∀ statement ∈ statements, statement.IsReadable isType relations marks := by
  intro statement mem
  cases statement with
  | ofEnum name members =>
    have memEnum : (name, members) ∈ enumsOf statements := List.mem_filterMap.2 ⟨_, mem, rfl⟩
    exact ⟨isSchema.enumNames _ memEnum, isSchema.members _ memEnum⟩
  | ofTable table =>
    have memTable : table.withKeys (statements.filterMap Statement.key?) ∈ tablesOf statements :=
      List.mem_map_of_mem (List.mem_filterMap.2 ⟨_, mem, rfl⟩)
    refine ⟨isSchema.tableNames (table.withKeys _) memTable, fun column memColumn => ?_,
      fun key memKey => ?_⟩
    · have isColumn := isSchema.columns _ memTable column memColumn
      exact ⟨isColumn.name, isColumn.type⟩
    · exact isSchema.isReference memTable (List.mem_append_left _ memKey)
  | ofKey owner key =>
    rcases isSchema.exists_owner mem with ⟨table, memTable, rfl, memKey⟩
    exact ⟨isSchema.tableNames table memTable, isSchema.isReference memTable memKey⟩

/-- Attaching the keys and the enums of a schema to its blocks gives its tables. -/
theorem settle_attached (isSchema : IsSchema isType relations marks statements) :
    (Table.settle (enumsOf statements) ((statements.filterMap Statement.key?).foldl
      (fun tables pair => (Table.attach tables pair.1 pair.2).result)
        ((statements.filterMap Statement.block?).map Table.withoutEnums))).result =
          tablesOf statements := by
  have distinct : (((statements.filterMap Statement.block?).map Table.withoutEnums).map
      Table.name).Nodup := by
    have sameNames := isSchema.distinctTables
    rw [tablesOf, List.map_map] at sameNames
    rw [List.map_map]
    exact sameNames
  have attached : ((statements.filterMap Statement.block?).map Table.withoutEnums).map
      (Table.withKeys (statements.filterMap Statement.key?)) =
      (tablesOf statements).map Table.withoutEnums := by
    rw [tablesOf, List.map_map, List.map_map]
    rfl
  rw [Table.foldl_attach distinct, attached]
  exact Table.settle_withoutEnums
    (fun table mem column memColumn => (isSchema.columns table mem column memColumn).isOf)
    fun table mem key memKey => (isSchema.keys table mem key memKey).leads

end IsSchema

/-! ### Lines of a table -/

variable {table : Table} {text : List Char}

theorem IsTable.isReadable_lines (isTable : IsTable isType relations table) {lines : List Line}
    (sameColumns : lines.map Line.column = table.columns)
    (sameKeys : lines.filterMap Line.key? = table.foreignKeys) :
    ∀ line ∈ lines, line.IsReadable isType := by
  intro line mem
  have memColumn : line.column ∈ table.columns := by
    rw [← sameColumns]
    exact List.mem_map_of_mem mem
  refine ⟨(isTable.columns _ memColumn).1, (isTable.columns _ memColumn).2, ?_⟩
  intro target isTarget
  have isKey : line.key? = some ⟨line.column.name, target.1, target.2, some .oneToMany⟩ := by
    rw [Line.key?, Option.mem_def.1 isTarget, Option.map_some]
  have isReference :
      IsReference relations ⟨line.column.name, target.1, target.2, some .oneToMany⟩ := by
    apply isTable.keys
    rw [← sameKeys]
    exact List.mem_filterMap.2 ⟨line, mem, isKey⟩
  exact ⟨isReference.table, isReference.referenced⟩

/-- The text of a table is cut into lines that say its columns and its keys. -/
theorem IsTable.exists_lines (areTypes : ∀ type, isType type → IsType type)
    (isTable : IsTable isType relations table) (written : text ∈ writtenLines table) :
    ∃ lines : List Line, lines.map Line.column = table.columns ∧
    lines.filterMap Line.key? = table.foreignKeys ∧
      (∀ line ∈ lines, line.IsReadable isType) ∧
      List.Forall₂ (fun line text => text ∈ line.written) lines (linesOf text) := by
  rcases written with ⟨lines, sameColumns, sameKeys, written⟩
  have areReadable := isTable.isReadable_lines sameColumns sameKeys
  exact ⟨lines, sameColumns, sameKeys, areReadable,
    linesOf_onLines (fun line mem text isText =>
      isLine_written areTypes (areReadable line mem) isText) written⟩

/-- The columns of a table are read from its lines, with their enums left open. -/
theorem IsTable.columns_read {precision : Scan (List Char)}
    (readsTypes : ReadsTypes isType precision) (areTypes : ∀ type, isType type → IsType type)
    (isTable : IsTable isType relations table) (written : text ∈ writtenLines table) :
    (linesOf text).filterMap (columnOf precision) = table.columns.map Column.withoutEnum := by
  rcases isTable.exists_lines areTypes written with ⟨lines, sameColumns, _, areReadable, areWritten⟩
  have read := filterMap_eq_of_forall₂ areWritten fun line mem text isText =>
    search_of_some (column_append readsTypes areTypes (areReadable line mem) isText)
  rw [← sameColumns, List.map_map, ← List.filterMap_eq_map]
  exact read

/-! ### Members -/

/-- A member without quotes stays as it is when quotes are dropped. -/
theorem IsMember.filter_quotes {member : String} (isMember : IsMember marks member)
    (quotes : ∀ quote ∈ ['\'', '"'], quote ∈ marks) :
    (member.toList.filter fun char => char ≠ '\'' && char ≠ '"') = member.toList := by
  rw [List.filter_eq_self]
  intro char mem
  have noQuote : char ∉ ['\'', '"'] := fun isQuote => isMember.2.2 char mem (quotes char isQuote)
  simpa using noQuote

/-- No member is empty, so that all of them are kept. -/
theorem map_ofList_members {members : List String}
    (areMembers : ∀ member ∈ members, IsMember marks member) :
    ((members.map String.toList).filter (!·.isEmpty)).map String.ofList = members := by
  have nonempty : (members.map String.toList).filter (!·.isEmpty) = members.map String.toList := by
    rw [List.filter_eq_self]
    intro piece mem
    rcases List.mem_map.1 mem with ⟨member, memMember, rfl⟩
    simpa using (areMembers member memMember).1
  rw [nonempty, List.map_map]
  simp [Function.comp_def]

/-! ### Dotted names -/

theorem dotted_append {name column : String} (isName : IsWord name.toList)
    (isColumn : IsWord column.toList) {rest : List Char}
    (written : text ∈ writtenDotted name column) (ends : Ends isWord rest) :
    dotted (text ++ rest) = some ((name, column), rest) := by
  rcases Language.mem_mul.1 written with ⟨_, rfl, _, behindName, rfl⟩
  rcases Language.mem_mul.1 behindName with ⟨_, rfl, _, rfl, rfl⟩
  simp only [dotted, bind_eq_some, pure_eq_some, List.append_assoc, List.singleton_append]
  exact ⟨name, _, word_append isName (ends_cons.2 (by decide)), (), _, mark_cons '.' _,
    column, rest,
    word_append isColumn ends, rfl, rfl⟩

theorem ends_writtenDotted {name column : String} (isName : IsWord name.toList) {rest : List Char}
    (written : text ∈ writtenDotted name column) : Ends isSpace (text ++ rest) := by
  rcases Language.mem_mul.1 written with ⟨_, rfl, _, _, rfl⟩
  rw [List.append_assoc]
  exact ends_isSpace_of_isWord isName

theorem free_dotted {chars : List Char} (noWord : ∀ char ∈ chars, isWord char = false)
    (noDot : '.' ∉ chars) {name column : String} (isName : IsWord name.toList)
    (isColumn : IsWord column.toList) :
    Free chars (writtenDotted name column) :=
  (free_word noWord isName).mul ((free_mark noDot).mul (free_word noWord isColumn))

/-! ### Characters of a block -/

theorem free_block {chars : List Char} (noWord : ∀ char ∈ chars, isWord char = false)
    (noSpace : ∀ char ∈ chars, isSpace char = false) (noBrace : ∀ char ∈ blockMarks, char ∉ chars)
    {name : String} (named : IsWord name.toList) {opening inside : Language Char}
    (isOpening : Free chars opening) (isInside : Free chars inside) :
    Free chars (writtenBlock opening name inside) := by
  have first : Free chars (mark '\x7b') := free_mark (noBrace _ (by decide))
  have last : Free chars (mark '\x7d') := free_mark (noBrace _ (by decide))
  have body := (free_blanks noSpace).mul (first.mul (isInside.mul last))
  exact isOpening.mul ((free_blank noSpace).mul ((free_word noWord named).mul body))

theorem free_lines {chars : List Char} (outside : ∀ char ∈ chars, isPlain char = false)
    (areTypes : ∀ type, isType type → IsType type) (isTable : IsTable isType relations table)
    (noMarks : table.foreignKeys ≠ [] → ∀ char ∈ chars, char ∉ targetMarks) :
    Free chars (writtenLines table) := by
  rintro text ⟨lines, sameColumns, sameKeys, written⟩
  have areReadable := isTable.isReadable_lines sameColumns sameKeys
  apply free_onLines outside _ text written
  intro language mem
  rcases List.mem_map.1 mem with ⟨line, memLines, rfl⟩
  apply free_line outside areTypes (areReadable line memLines)
  intro isTarget
  apply noMarks
  rcases Option.isSome_iff_exists.1 isTarget with ⟨target, isSome⟩
  rw [← sameKeys]
  have memKeys : _ ∈ lines.filterMap Line.key? :=
    List.mem_filterMap.2 ⟨line, memLines, by rw [Line.key?, isSome, Option.map_some]⟩
  exact List.ne_nil_of_mem memKeys

end Schemagram.Blocks
