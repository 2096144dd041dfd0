import Schemagram.Proofs.Dbml.Writing

/-!
# What is written in DBML is read back

No colon stands in a block, so that references are found at their colons.
-/

namespace Schemagram.Dbml

open Text Writing Blocks
open Scan hiding keyword mark

variable {text rest : List Char}

/-! ### Members -/

/-- A trimmed line without its quotes and without a comma at its end. -/
def unquoted (line : List Char) : List Char :=
  let bare := line.filter fun char => char ≠ '\'' && char ≠ '"'
  trim (if bare.getLast? = some ',' then bare.dropLast else bare)

/-- Empty lines have no members, so that they may be left out before quotes are dropped. -/
theorem membersOf_eq (inside : List Char) :
    membersOf inside = (((linesOf inside).map unquoted).filter (!·.isEmpty)).map String.ofList := by
  have dropEmpty (pieces : List (List Char)) : (pieces.map unquoted).filter (!·.isEmpty) =
      ((pieces.filter (!·.isEmpty)).map unquoted).filter (!·.isEmpty) := by
    induction pieces with
    | nil => rfl
    | cons piece more ih =>
      cases piece with
      | nil => exact ih
      | cons char tail =>
        simp only [List.map_cons, List.filter_cons, List.isEmpty_cons, Bool.not_false, if_true, ih]
  have inSteps : (splitOn '\n' inside).map memberOf = ((splitOn '\n' inside).map trim).map
      unquoted := by
    rw [List.map_map]
    rfl
  rw [membersOf, inSteps, dropEmpty, linesOf]

theorem unquoted_member {member : String} (isMember : IsMember marks member) :
    unquoted member.toList = member.toList := by
  have noComma : member.toList.getLast? ≠ some ',' := fun isLast =>
    isMember.2.2 ',' (List.mem_of_getLast? isLast) (by decide)
  rw [unquoted, isMember.filter_quotes (by decide), if_neg noComma, isMember.2.1]

theorem isLine_member {member : String} (isMember : IsMember marks member) :
    IsLine member.toList := by
  refine ⟨?_, fun mem => isMember.2.2 _ mem (by decide), isMember.2.1⟩
  simpa using isMember.1

/-- The members of an enum are read from their lines. -/
theorem membersOf_written {members : List String}
    (areMembers : ∀ member ∈ members, IsMember marks member)
    (written : text ∈ writtenMembers members) : membersOf text = members := by
  have areLines := linesOf_onLines (fun member mem text isText => by
    rw [mem_exactly.1 isText]
    exact isLine_member (areMembers member mem)) written
  have lines : linesOf text = members.map String.toList := by
    have read : (linesOf text).filterMap some = members.filterMap fun member =>
        some member.toList :=
      filterMap_eq_of_forall₂ areLines fun member _ line isText =>
        congrArg some (mem_exactly.1 isText)
    simpa using read
  have unquote : (members.map String.toList).map unquoted = members.map String.toList := by
    rw [List.map_map]
    exact List.map_congr_left fun member mem => unquoted_member (areMembers member mem)
  rw [membersOf_eq, lines, unquote, map_ofList_members areMembers]

/-! ### References -/

/-- The word before a reference ends in its only colon. -/
theorem exists_of_isSpelling {word : List Char} (spelled : IsSpelling "ref:" word) :
    ∃ letters, word = letters ++ [':'] ∧ letters.length = 3 ∧ ':' ∉ letters := by
  have parts : "ref:".toList = ['r', 'e', 'f'] ++ [':'] := by decide
  rcases exists_of_isSpelling_colon parts (by decide) spelled with ⟨letters, split, length, inWord⟩
  exact ⟨letters, split, length, not_mem_of_run inWord (by decide)⟩

/-- The reference that says a key of an owner, by one of the arrows of its relation. -/
theorem reference_append {owner : String} {key : ForeignKey} (isOwner : IsWord owner.toList)
    (isReference : IsReference relations key) (written : text ∈ writtenReference owner key)
    (ends : Ends isWord rest) :
    ∃ found : Reference, found.owner = owner ∧ found.key = key ∧
    reference (text ++ rest) = some (found, rest) := by
  rcases Language.mem_mul.1 written with ⟨word, isRef, _, behindWord, rfl⟩
  rcases Language.mem_mul.1 behindWord with ⟨first, isFirst, _, behindFirst, rfl⟩
  rcases Language.mem_mul.1 behindFirst with ⟨left, isLeft, _, behindLeft, rfl⟩
  rcases Language.mem_mul.1 behindLeft with ⟨second, isSecond, _, behindSecond, rfl⟩
  rcases Language.mem_mul.1 behindSecond with ⟨sign, isArrow, _, behindArrow, rfl⟩
  rcases Language.mem_mul.1 behindArrow with ⟨third, isThird, right, isRight, rfl⟩
  have readArrow : ∃ arrow, sign = [arrow] ∧ (arrow = '<' || arrow = '-' || arrow = '>') = true ∧
      key.relation? = some (if arrow = '-' then .oneToOne else .oneToMany) := by
    rcases isReference.relation with ⟨relation, isRelation, same⟩
    rw [same] at isArrow ⊢
    rcases List.mem_pair.1 isRelation with rfl | rfl
    · exact ⟨'-', isArrow, by decide, rfl⟩
    · rcases isArrow with isArrow | isArrow
      · exact ⟨'<', isArrow, by decide, rfl⟩
      · exact ⟨'>', isArrow, by decide, rfl⟩
  rcases readArrow with ⟨arrow, rfl, isOne, relation⟩
  refine ⟨⟨(key.referenceTable, key.referenceColumn), arrow, (owner, key.column)⟩, rfl, ?_, ?_⟩
  · rw [Reference.key, ← relation]
  · have noSpace : isSpace arrow = false := by
      have all : ∀ arrow ∈ ['<', '-', '>'], isSpace arrow = false := by decide
      exact all arrow (by simpa [or_assoc] using isOne)
    have noWord : isWord arrow = false := by
      have all : ∀ arrow ∈ ['<', '-', '>'], isWord arrow = false := by decide
      exact all arrow (by simpa [or_assoc] using isOne)
    simp only [reference, bind_eq_some, pure_eq_some, List.append_assoc, List.cons_append,
      List.nil_append]
    exact ⟨(), _, keyword_append isRef _, (), _,
      spaces_append isFirst (ends_writtenDotted isReference.table isLeft),
      _, _, dotted_append isReference.table isReference.referenced isLeft
        (ends_blanks (fun _ => isWord_of_isSpace) isSecond (ends_cons.2 noWord)), (), _,
      spaces_append isSecond (ends_cons.2 noSpace), arrow, _, one_eq_some.2 ⟨rfl, isOne⟩, (), _,
      spaces_append isThird (ends_writtenDotted isOwner isRight), _, rest,
      dotted_append isOwner isReference.column isRight ends, rfl, rfl⟩

theorem exists_of_reference {found : Reference} (read : reference text = some (found, rest)) :
    ∃ word after, IsSpelling "ref:" word ∧ text = word ++ after := by
  simp only [reference, bind_eq_some] at read
  rcases read with ⟨_, after, readWord, _⟩
  rcases keyword_eq_some.1 readWord with ⟨word, spelled, rfl⟩
  exact ⟨word, after, spelled, rfl⟩

/-- A reference is found behind a text without a colon, and nothing before it. -/
theorem finds_reference {owner : String} {key : ForeignKey} (isOwner : IsWord owner.toList)
    (isReference : IsReference relations key) :
    Finds reference (fun found => (found.owner, found.key)) (':' ∉ ·) (writtenReference owner key)
      (some (owner, key)) := by
  intro front text rest noColon written ends
  rcases reference_append isOwner isReference written ends with ⟨found, sameOwner, sameKey, read⟩
  rcases Language.mem_mul.1 written with ⟨word, isRef, behind, _, rfl⟩
  rcases exists_of_isSpelling (isSpelling_of_keyword isRef) with
    ⟨letters, rfl, length, noColonInside⟩
  refine ⟨[], List.not_mem_nil, ?_⟩
  rw [all_append_of_none, all_of_some read, List.map_cons, sameOwner, sameKey]
  · rfl
  · simp only [List.length_append, List.length_singleton]
    omega
  · intro suffix isSuffix nonempty
    rw [Option.eq_none_iff_forall_ne_some]
    rintro ⟨other, left⟩ readEarlier
    rcases exists_of_reference readEarlier with ⟨_, after, spelled, split⟩
    rcases exists_of_isSpelling spelled with ⟨otherLetters, rfl, otherLength, noColonOther⟩
    -- The colon is the first one of the text, and stands behind three letters.
    have noColonBefore : ':' ∉ suffix ++ letters := by
      rw [List.mem_append, not_or]
      exact ⟨fun mem => noColon (isSuffix.subset mem), noColonInside⟩
    have sameLetters : suffix ++ letters = otherLetters := by
      apply And.left
      apply append_cons_inj noColonBefore noColonOther
      simpa using split
    have lengths := congrArg List.length sameLetters
    rw [List.length_append, length, otherLength] at lengths
    exact nonempty (List.length_eq_zero_iff.1 (by omega))

/-- No reference stands in a text without a colon. -/
theorem references_eq_nil (noColon : ':' ∉ text) : references text = [] := by
  apply all_eq_nil
  intro suffix isSuffix
  rw [Option.eq_none_iff_forall_ne_some]
  rintro ⟨found, left⟩ read
  rcases exists_of_reference read with ⟨_, after, spelled, rfl⟩
  rcases exists_of_isSpelling spelled with ⟨letters, rfl, _⟩
  exact noColon (isSuffix.subset (by simp))

/-! ### Statements -/

variable {statements : List Statement}

theorem style_isPlain (statement : Statement)
    (isReadable : statement.IsReadable IsType relations marks) :
    style.IsPlain statement := by
  cases statement with
  | ofEnum name members =>
    refine ⟨isReadable.1, free_onLines (by decide) fun language mem => ?_⟩
    rcases List.mem_map.1 mem with ⟨member, memMember, rfl⟩
    rintro _ rfl char memChar isBrace
    have fewer : ∀ char ∈ blockMarks, char ∈ marks := by decide
    exact (isReadable.2 member memMember).2.2 char memChar (fewer char isBrace)
  | ofTable table =>
    have free : Free blockMarks (writtenLines table) :=
      free_lines (by decide) (fun _ => id) isReadable fun _ => by decide
    exact ⟨isReadable.name, fun text written => free text written.2⟩
  | ofKey owner key =>
    have dotted {table column : String} (isTable : IsWord table.toList)
        (isColumn : IsWord column.toList) :
        Free blockMarks (writtenDotted table column) :=
      free_dotted (by decide) (by decide) isTable isColumn
    have spaces : Free blockMarks blanks := free_blanks (by decide)
    have arrow : Free blockMarks (writtenArrow key.relation?) := by
      unfold writtenArrow
      split
      · exact free_mark (by decide)
      · exact (free_mark (by decide)).add (free_mark (by decide))
      · exact fun _ empty => nomatch empty
    have right := arrow.mul (spaces.mul (dotted isReadable.1 isReadable.2.column))
    have left := (dotted isReadable.2.table isReadable.2.referenced).mul (spaces.mul right)
    exact (free_keyword (by decide)).mul (spaces.mul left)

/-- No colon stands in the blocks of a schema. -/
theorem free_colon {opening inside : Language Char} {name : String} (isOpening : Free [':'] opening)
    (named : IsWord name.toList) (isInside : Free [':'] inside) :
    Free [':'] (writtenBlock opening name inside) :=
  free_block (by decide) (by decide) (by decide) named isOpening isInside

theorem finds_statement {statement : Statement}
    (isReadable : statement.IsReadable IsType relations marks) :
    Finds reference (fun found => (found.owner, found.key)) (':' ∉ ·) (style.written statement)
      statement.key? := by
  cases statement with
  | ofEnum name members =>
    refine finds_of_free (free_colon (free_keyword (by decide)) isReadable.1 ?_)
    refine free_onLines (by decide) fun language mem => ?_
    rcases List.mem_map.1 mem with ⟨member, memMember, rfl⟩
    rintro _ rfl char memChar isColon
    rw [List.mem_singleton.1 isColon] at memChar
    exact (isReadable.2 member memMember).2.2 ':' memChar (by decide)
  | ofTable table =>
    refine finds_of_free (free_colon (free_keyword (by decide)) isReadable.name ?_)
    intro text written
    exact free_lines (by decide) (fun _ => id) isReadable (absurd written.1) text written.2
  | ofKey owner key => exact finds_reference isReadable.1 isReadable.2

/-! ### Schemas -/

/-- The references of a script are found in their order. -/
theorem references_script
    (areReadable : ∀ statement ∈ statements, statement.IsReadable IsType relations marks)
    (written : text ∈ script (statements.map style.written)) :
    (references text).map (fun found => (found.owner, found.key)) =
      statements.filterMap Statement.key? := by
  rw [← List.nil_append text]
  exact map_all_script (not_mem_append_blanks (by decide)) references_eq_nil
    (fun statement mem => finds_statement (areReadable statement mem)) List.not_mem_nil written

/-- The tables of a script are read in their order, without keys and with their enums left open. -/
theorem tables_script
    (areReadable : ∀ statement ∈ statements, statement.IsReadable IsType relations marks)
    (written : text ∈ script (statements.map style.written)) :
    tables text = (statements.filterMap Statement.block?).map Table.withoutEnums := by
  apply map_all_tables (fun _ spelled => spelled)
    (fun _ isOpening => isSpelling_of_keyword isOpening)
    (fun statement mem => style_isPlain statement (areReadable statement mem)) _ written
  intro table mem inside isInside
  have isTable : IsTable IsType relations table := areReadable _ mem
  change Table.mk table.name (columnsOf inside) [] = table.withoutEnums
  rw [columnsOf, isTable.columns_read readsTypes_twoSizes (fun _ => id) isInside.2,
    Table.withoutEnums, isInside.1]

/-- The enums of a script are read in their order. -/
theorem enums_script
    (areReadable : ∀ statement ∈ statements, statement.IsReadable IsType relations marks)
    (written : text ∈ script (statements.map style.written)) :
    (all (block (Scan.keyword "Enum")) text).map (fun (name, inside) => (name, membersOf inside)) =
      enumsOf statements := by
  apply map_all_enums (by decide) (fun _ isOpening => isOpening)
    (fun statement mem => style_isPlain statement (areReadable statement mem)) _ written
  intro name members mem inside isInside
  exact membersOf_written (areReadable _ mem).2 isInside

/-- A schema that is written in DBML is read back: the same tables in the same order, with the same
columns and enums, and with the keys of their references in the order of these. -/
theorem parse_written (isSchema : IsSchema statements)
    (written : text ∈ script (statements.map style.written)) :
    (parse text).result = tablesOf statements := by
  have areReadable := Blocks.IsSchema.isReadable isSchema
  have readEnums : enums text = enumsOf statements := by
    rw [enums, enums_script areReadable written, Keyed.ofPairs_of_nodup isSchema.distinctEnums]
  have attached : ((references text).foldlM (fun tables reference =>
      Table.attach tables reference.owner reference.key) (tables text)).result =
        (statements.filterMap Statement.key?).foldl
        (fun tables pair => (Table.attach tables pair.1 pair.2).result)
          ((statements.filterMap Statement.block?).map Table.withoutEnums) := by
    rw [Logged.result_foldlM, ← references_script areReadable written, List.foldl_map,
      tables_script areReadable written]
  simp only [parse, Logged.result_bind, readEnums, attached]
  exact Blocks.IsSchema.settle_attached isSchema

/-- A schema whose names are keywords and whose types are enums. -/
def keywordStatements : List Statement := [
  .ofEnum "table" ["so so", "Enum x"],
  .ofKey "Table" ⟨"pk", "enum", "nn", some .oneToMany⟩,
  .ofTable ⟨"Table", [⟨"pk", "varchar(20)", false, true, some false, none⟩,
    ⟨"ref", "table", true, false, some true, some ["so so", "Enum x"]⟩], []⟩,
  .ofTable ⟨"enum", [⟨"nn", "decimal(10,2)", true, true, some false, none⟩], []⟩,
  .ofKey "Table" ⟨"ref", "enum", "nn", some .oneToOne⟩]

theorem isSchema_keywordStatements : IsSchema keywordStatements where
  distinctEnums := by decide
  enumNames := by decide
  members := by decide
  distinctTables := by decide
  tableNames := by decide
  columns := by
    have isVarchar : IsType "varchar(20)".toList :=
      .sized (by decide : IsWord "varchar".toList) (by decide : IsDigits "20".toList)
    have isDecimal : IsType "decimal(10,2)".toList :=
      .sizedTwice (by decide : IsWord "decimal".toList) (by decide : IsDigits "10".toList)
        (by decide : IsDigits "2".toList)
    intro table mem column memColumn
    rcases List.mem_pair.1 mem with rfl | rfl
    · rcases List.mem_pair.1 memColumn with rfl | rfl
      · exact ⟨by decide, isVarchar, rfl, rfl⟩
      · exact ⟨by decide, .plain (by decide), rfl, rfl⟩
    · rw [List.mem_singleton.1 memColumn]
      exact ⟨by decide, isDecimal, rfl, rfl⟩
  keys := by
    intro table mem key memKey
    rcases List.mem_pair.1 mem with rfl | rfl
    · rcases List.mem_pair.1 memKey with rfl | rfl <;>
        exact ⟨by decide, ⟨_, rfl, _, List.mem_cons_self, rfl⟩, _, by decide, rfl⟩
    · cases memKey
  owners := by
    intro owner key mem
    simp only [keywordStatements, List.mem_cons, reduceCtorEq, Statement.ofKey.injEq,
      List.not_mem_nil, false_or, or_false] at mem
    rcases mem with ⟨rfl, _⟩ | ⟨rfl, _⟩ <;> exact ⟨_, List.mem_cons_self, rfl⟩

theorem parse_written_keywords :
    (parse (print.scriptText keywordStatements)).result = tablesOf keywordStatements := by
  have noKeys : ∀ table, .ofTable table ∈ keywordStatements → table.foreignKeys = [] := by
    simp [keywordStatements]
  exact parse_written isSchema_keywordStatements (scriptText_mem isSchema_keywordStatements noKeys)

end Schemagram.Dbml
