import Schemagram.Proofs.Shorthand.References

/-!
# What is written in shorthand is read back

The keys that stand in a table come first.  Those of the references follow them in their order,
whichever way their arrows point.
-/

namespace Schemagram.Shorthand

open Text Writing Blocks
open Scan hiding keyword mark

variable {text : List Char} {statements : List Statement}

/-! ### Members -/

/-- The members of an enum are read from between the commas. -/
theorem membersOf_written {members : List String}
    (areMembers : ∀ member ∈ members, IsMember marks member)
    (written : text ∈ writtenMembers members) : membersOf text = members := by
  unfold writtenMembers at written
  split at written
  · rename_i isEmpty
    have noPiece : trim text = [] := by
      rw [← List.append_nil text, trim_spaces_append written]
      rfl
    rw [List.isEmpty_iff.1 isEmpty, membersOf, splitOn_of_not_mem (comma_not_mem_blanks written),
      List.map_singleton, noPiece]
    rfl
  · have pieces : (splitOn ',' text).map
        (fun piece => (trim piece).filter fun char => char ≠ '\'' && char ≠ '"') =
        members.map String.toList := by
      apply map_splitOn_listed _ _ written
      · rintro member mem _ rfl inMember
        exact (areMembers member mem).2.2 ',' inMember (by decide)
      · rintro member mem before isBefore _ rfl after isAfter
        rw [List.append_assoc, trim_spaces_append isBefore, trim_append_spaces isAfter,
          (areMembers member mem).2.1, (areMembers member mem).filter_quotes (by decide)]
    rw [membersOf, pieces, map_ofList_members areMembers]

/-! ### Statements -/

/-- Members do without the marks, and so does the list of them if it can do without commas. -/
theorem free_members {chars : List Char} (noSpace : ∀ char ∈ chars, isSpace char = false)
    (noComma : ',' ∉ chars) (areMarks : ∀ char ∈ chars, char ∈ marks) {members : List String}
    (areMembers : ∀ member ∈ members, IsMember marks member) :
    Free chars (writtenMembers members) := by
  unfold writtenMembers
  split
  · exact free_blanks noSpace
  · apply free_listed noComma noSpace
    intro language mem
    rcases List.mem_map.1 mem with ⟨member, memMember, rfl⟩
    rintro _ rfl char inMember isChar
    exact (areMembers member memMember).2.2 char inMember (areMarks char isChar)

theorem free_reference {chars : List Char} (noWord : ∀ char ∈ chars, isWord char = false)
    (noSpace : ∀ char ∈ chars, isSpace char = false)
    (others : ∀ char ∈ chars, char ∉ ['.', ':', '<', '>']) {owner : String} {key : ForeignKey}
    (isOwner : IsWord owner.toList) (isReference : IsReference relations key) :
    Free chars (writtenReference owner key) := by
  have spaces : Free chars blanks := free_blanks noSpace
  have noMark {char : Char} (isOther : char ∈ ['.', ':', '<', '>']) : char ∉ chars :=
    fun mem => others char mem isOther
  have dotted {table column : String} (isTable : IsWord table.toList)
      (isColumn : IsWord column.toList) :
      Free chars (writtenDotted table column) :=
    free_dotted noWord (noMark (by decide)) isTable isColumn
  have word {name : String}
      (letters : ∀ letter ∈ name.toList, (isWord letter || letter = ':') = true) :
      Free chars (keyword name) := by
    refine free_letters (fun char => isWord char || char = ':') ?_ ?_ letters
    · intro char
      have sameColon : small char = ':' ↔ char = ':' := by
        refine ⟨eq_of_small_eq (by decide), ?_⟩
        rintro rfl
        rfl
      simp [isWord_small, sameColon]
    · intro char mem
      have noColon : char ≠ ':' := by
        rintro rfl
        exact noMark (by decide) mem
      simp [noWord char mem, noColon]
  have arrow {left right : Language Char} {sign : Char} (isArrow : sign ∈ ['.', ':', '<', '>'])
      (isLeft : Free chars left) (isRight : Free chars right) :
      Free chars (writtenArrow left sign right) :=
    isLeft.mul (spaces.mul ((free_mark (noMark isArrow)).mul (spaces.mul isRight)))
  have introduction : Free chars writtenIntroduction :=
    free_one.add (((word (by decide)).add (word (by decide))).mul spaces)
  have source := dotted isOwner isReference.column
  have target := dotted isReference.table isReference.referenced
  exact introduction.mul ((arrow (by decide) source target).add (arrow (by decide) target source))

theorem style_isPlain (statement : Statement)
    (isReadable : statement.IsReadable HasOneSize relations marks) :
    style.IsPlain statement := by
  cases statement with
  | ofEnum name members =>
    exact ⟨isReadable.1, free_members (by decide) (by decide) (by decide) isReadable.2⟩
  | ofTable table =>
    exact ⟨isReadable.name, free_lines (by decide) (fun _ isType => isType.1) isReadable
      fun _ => by decide⟩
  | ofKey owner key =>
    exact free_reference (by decide) (by decide) (by decide) isReadable.1 isReadable.2

theorem finds_statement {statement : Statement}
    (isReadable : statement.IsReadable HasOneSize relations marks) :
    Finds reference (fun found => (found.source.1, found.key)) (· ∈ blanks)
    (style.written statement)
      statement.key? := by
  cases statement with
  | ofEnum name members =>
    have noArrow : Free arrows (writtenMembers members) :=
      free_members (by decide) (by decide) (by decide) isReadable.2
    exact finds_of_guarded
      (guarded_block (guarded_of_free (free_keyword (by decide))) isReadable.1
        (guarded_of_free noArrow))
  | ofTable table =>
    have noArrow : Free arrows (exactly "Table".toList) := free_word (by decide) (by decide)
    exact finds_of_guarded
      (guarded_block (guarded_of_free noArrow) isReadable.name (guarded_lines isReadable))
  | ofKey owner key => exact finds_reference isReadable.1 isReadable.2

/-! ### Keys -/

/-- Both tables of a reference are among the given names. -/
def Reference.isKnown (names : List String) (reference : Reference) : Bool :=
  reference.left.1 ∈ names && reference.right.1 ∈ names

theorem Reference.isKnown_iff {names : List String} {reference : Reference} :
    reference.isKnown names = true ↔ reference.source.1 ∈ names ∧
    reference.key.referenceTable ∈ names := by
  by_cases forward : reference.arrow = '>'
  · simp [isKnown, source, key, target, forward]
  · simp [isKnown, source, key, target, forward, and_comm]

/-- A reference between known tables gives its key to the table that refers; any other one changes
nothing. -/
theorem result_attach (tables : List Table) (found : List Char × Reference) :
    (attach tables found).result =
    if found.2.isKnown
    (tables.map Table.name) then (Table.attach tables found.2.source.1 found.2.key).result
    else tables := by
  have sameTest : ((Table.find? tables found.2.left.1).isSome &&
      (Table.find? tables found.2.right.1).isSome) =
      found.2.isKnown (tables.map Table.name) := by
    rw [Bool.eq_iff_iff]
    simp only [Reference.isKnown, Bool.and_eq_true, Table.isSome_find?, decide_eq_true_eq]
  simp only [attach, sameTest]
  split <;> rfl

/-- References give the keys of those between known tables to the tables, one after the other. -/
theorem foldl_attach (found : List (List Char × Reference)) (tables : List Table) :
    found.foldl (fun tables reference => (attach tables reference).result) tables =
      (((found.map Prod.snd).filter (·.isKnown (tables.map Table.name))).map
        fun reference => (reference.source.1, reference.key)).foldl
          (fun tables pair => (Table.attach tables pair.1 pair.2).result) tables := by
  induction found generalizing tables with
  | nil => rfl
  | cons first more ih =>
    rw [List.foldl_cons, List.map_cons, List.filter_cons, ih, result_attach]
    split
    · rw [Table.names_attach, List.map_cons, List.foldl_cons]
    · rfl

/-! ### Schemas -/

/-- The references of a script are found in their order. -/
theorem references_script
    (areReadable : ∀ statement ∈ statements, statement.IsReadable HasOneSize relations marks)
    (written : text ∈ script (statements.map style.written)) :
    (references text).map (fun found => (found.2.source.1, found.2.key)) =
      statements.filterMap Statement.key? := by
  have found : (all reference text).map (fun found => (found.source.1, found.key)) =
      statements.filterMap Statement.key? := by
    rw [← List.nil_append text]
    apply map_all_script _ all_reference_blanks
      (fun statement mem => finds_statement (areReadable statement mem)) nil_mem_blanks written
    intro front gap isFront isGap char mem
    rcases List.mem_append.1 mem with mem | mem
    · exact isFront char mem
    · exact isGap char mem
  rw [← map_snd_all_withText, List.map_map] at found
  exact found

/-- The tables of a script are read in their order, with the keys that stand in them. -/
theorem tables_script
    (areReadable : ∀ statement ∈ statements, statement.IsReadable HasOneSize relations marks)
    (written : text ∈ script (statements.map style.written)) :
    tables text = (statements.filterMap Statement.block?).map Table.withoutEnums := by
  have opens : ∀ opening ∈ style.opening,
      Spelled (fun expected char => expected = char) "Table".toList opening :=
    fun _ isOpening => spelled_exactly.2 isOpening
  apply map_all_tables _ opens
    (fun statement mem => style_isPlain statement (areReadable statement mem)) _ written
  · intro opening spelled
    rw [spelled_exactly.1 spelled]
    exact isSpelling_of_keyword (mem_keyword.2 rfl)
  · intro table mem inside isInside
    exact tableOf_written (areReadable _ mem) isInside

/-- The enums of a script are read in their order. -/
theorem enums_script
    (areReadable : ∀ statement ∈ statements, statement.IsReadable HasOneSize relations marks)
    (written : text ∈ script (statements.map style.written)) :
    (all (block (Scan.keyword "enum")) text).map (fun (name, inside) => (name, membersOf inside)) =
      enumsOf statements := by
  apply map_all_enums (by decide) _
    (fun statement mem => style_isPlain statement (areReadable statement mem)) _ written
  · rintro _ rfl
    exact mem_keyword.2 rfl
  · intro name members mem inside isInside
    exact membersOf_written (areReadable _ mem).2 isInside

/-- A schema that is written in shorthand is read back: the same tables in the same order, with the
same columns and enums, and with the keys that stand in a table before those of its references. -/
theorem parse_arranged (isSchema : IsSchema statements)
    (written : text ∈ script (statements.map style.written)) :
    (parse text).result = tablesOf statements := by
  have areReadable := Blocks.IsSchema.isReadable isSchema
  have readReferences := references_script areReadable written
  have readTables := tables_script areReadable written
  have readEnums : enums text = enumsOf statements := by
    rw [enums, enums_script areReadable written, Keyed.ofPairs_of_nodup isSchema.distinctEnums]
  have sameNames : (tables text).map Table.name = (tablesOf statements).map Table.name := by
    rw [readTables, tablesOf, List.map_map, List.map_map]
    rfl
  have areKnown : ∀ found ∈ references text, found.2.source.1 ∈ (tables text).map Table.name ∧
      found.2.key.referenceTable ∈ (tables text).map Table.name := by
    intro found mem
    have isKey : (found.2.source.1, found.2.key) ∈ statements.filterMap Statement.key? := by
      rw [← readReferences]
      exact List.mem_map_of_mem mem
    rw [sameNames]
    exact Blocks.IsSchema.isKnown isSchema (mem_of_mem_keys isKey)
  have allKnown : ((references text).map Prod.snd).filter
      (·.isKnown ((tables text).map Table.name)) =
      (references text).map Prod.snd := by
    rw [List.filter_eq_self]
    intro reference mem
    rcases List.mem_map.1 mem with ⟨found, memFound, rfl⟩
    exact Reference.isKnown_iff.2 (areKnown found memFound)
  have attached := foldl_attach (references text) (tables text)
  rw [allKnown, List.map_map] at attached
  change _ = ((references text).map fun found => (found.2.source.1, found.2.key)).foldl _
    _ at attached
  rw [readReferences, readTables] at attached
  simp only [parse, Logged.result_bind, Logged.result_foldlM, readEnums, readTables, attached]
  exact Blocks.IsSchema.settle_attached isSchema

/-- A schema whose names are keywords, with a key on the line of its column. -/
def keywordStatements : List Statement := [
  .ofTable ⟨"ref", [⟨"fk", "varchar(20)", false, false, some false, none⟩,
    ⟨"Table", "enum", true, true, some true, some ["so so", "Table: x"]⟩],
    [⟨"fk", "Table", "ref", some .oneToMany⟩]⟩,
  .ofEnum "enum" ["so so", "Table: x"],
  .ofKey "Table" ⟨"ref", "ref", "Table", some .oneToMany⟩,
  .ofTable ⟨"Table", [⟨"ref", "int", false, true, some false, none⟩], []⟩,
  .ofKey "ref" ⟨"Table", "Table", "ref", some .oneToMany⟩]

theorem isSchema_keywordStatements : IsSchema keywordStatements where
  distinctEnums := by decide
  enumNames := by decide
  members := by decide
  distinctTables := by decide
  tableNames := by decide
  columns := by
    have isVarchar : HasOneSize "varchar(20)".toList :=
      ⟨.sized (by decide : IsWord "varchar".toList) (by decide : IsDigits "20".toList), by decide⟩
    intro table mem column memColumn
    rcases List.mem_pair.1 mem with rfl | rfl
    · rcases List.mem_pair.1 memColumn with rfl | rfl
      · exact ⟨by decide, isVarchar, rfl, rfl⟩
      · exact ⟨by decide, ⟨.plain (by decide), by decide⟩, rfl, rfl⟩
    · rw [List.mem_singleton.1 memColumn]
      exact ⟨by decide, ⟨.plain (by decide), by decide⟩, rfl, rfl⟩
  keys := by
    intro table mem key memKey
    rcases List.mem_pair.1 mem with rfl | rfl
    · rcases List.mem_pair.1 memKey with rfl | rfl <;>
        exact ⟨by decide, ⟨_, rfl, _, List.mem_cons_self, rfl⟩, _, by decide, rfl⟩
    · rw [List.mem_singleton.1 memKey]
      exact ⟨by decide, ⟨_, rfl, _, List.mem_cons_of_mem _ List.mem_cons_self, rfl⟩,
        _, by decide, rfl⟩
  owners := by
    intro owner key mem
    simp only [keywordStatements, List.mem_cons, reduceCtorEq, Statement.ofKey.injEq,
      List.not_mem_nil, false_or, or_false] at mem
    rcases mem with ⟨rfl, _⟩ | ⟨rfl, _⟩
    · exact ⟨_, List.mem_cons_of_mem _ List.mem_cons_self, rfl⟩
    · exact ⟨_, List.mem_cons_self, rfl⟩

theorem parse_arranged_keywords :
    (parse (print.scriptText keywordStatements)).result = tablesOf keywordStatements := by
  have isQuiet : IsQuiet "Table" ∧ IsQuiet "ref" := by
    unfold IsQuiet
    decide
  have inLines : ∀ table, .ofTable table ∈ keywordStatements → HasKeysInLines table := by
    intro table mem
    simp only [keywordStatements, List.mem_cons, reduceCtorEq, Statement.ofTable.injEq,
      List.not_mem_nil, false_or, or_false] at mem
    rcases mem with rfl | rfl
    · refine ⟨by decide, fun key mem => ?_⟩
      rw [List.mem_singleton.1 mem]
      exact isQuiet
    · exact hasKeysInLines_of_nil rfl
  exact parse_arranged isSchema_keywordStatements
    (scriptText_mem isSchema_keywordStatements inLines)

end Schemagram.Shorthand
