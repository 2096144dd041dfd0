import Schemagram.Proofs.Sql.Printing
import Schemagram.Proofs.Sql.Statements
import Schemagram.Proofs.Tables.Settling

/-!
# What is written in SQL is read back

A text is gone through from left to right.  No statement begins within another one: a name may be
any keyword, but what follows it is not what a statement goes on with, and no statement reaches over
the semicolon at which another one ends.
-/

namespace Schemagram.Sql

open Text Writing
open Scan hiding keyword mark

variable {text rest : List Char} {enums : Enums}

/-! ### Places at which no statement begins -/

/-- Every statement begins with its keyword. -/
theorem all_append_of_plain {Found : Type} {scan : Scan Found}
    (starts : ∀ {text}, Scan.keyword "CREATE" text = none → scan text = none)
    (plain : ∀ char ∈ text, small char ≠ 'c') (rest : List Char) :
    all scan (text ++ rest) = all scan rest := by
  apply all_append_of_none
  intro suffix isSuffix nonempty
  cases suffix with
  | nil => exact absurd rfl nonempty
  | cons char more =>
    have isPlain := plain char (isSuffix.subset List.mem_cons_self)
    have asKeyword : [char] ∈ keyword (String.singleton char) := by simp [mem_keyword]
    apply starts
    exact keyword_append_eq_none 0 'C' char (by decide) (by simp) (by decide) isPlain asKeyword
      (more ++ rest)

theorem tableStatement_starts (failed : Scan.keyword "CREATE" text = none) :
    tableStatement text = none :=
  bind_eq_none failed

theorem enumStatement_starts (failed : Scan.keyword "CREATE" text = none) :
    enumStatement text = none :=
  bind_eq_none failed

theorem plain_blanks (isBlanks : text ∈ blanks) : ∀ char ∈ text, small char ≠ 'c' := by
  intro char mem same
  have space := isBlanks char mem
  rw [← isSpace_small, same] at space
  cases space

theorem plain_keyword {name : String} (plain : ∀ letter ∈ name.toList, small letter ≠ 'c')
    (written : text ∈ keyword name) : ∀ char ∈ text, small char ≠ 'c' := by
  intro char mem same
  rcases small_mem_of_keyword written mem with ⟨letter, memLetter, sameLetter⟩
  exact plain letter memLetter (by rw [← sameLetter, same])

/-- No statement of a table begins within a word that is not followed by the second keyword. -/
theorem all_tableStatement_word {gap : List Char} (isWord : IsWord text) (isGap : gap ∈ blank)
    (ends : Ends isSpace rest) (other : Scan.keyword "TABLE" rest = none) :
    all tableStatement (text ++ (gap ++ rest)) = all tableStatement rest := by
  rw [all_append_of_none, all_append_of_plain tableStatement_starts (plain_blanks isGap.2)]
  intro suffix isSuffix nonempty
  rw [Option.eq_none_iff_forall_ne_some]
  rintro ⟨found, after⟩ read
  simp only [tableStatement, bind_eq_some] at read
  rcases read with ⟨_, behindCreate, readCreate, _, behindGap, readGap, _, _, readTable, _⟩
  rcases keyword_eq_some.1 readCreate with ⟨create, spelled, split⟩
  rcases someSpaces_eq_some.1 readGap with ⟨blanks, sameGap, someBlanks, isBlanks, _⟩
  -- The keyword is all of the suffix, because white space follows both.
  have readSuffix : run Text.isWord (suffix ++ (gap ++ rest)) = some (suffix, gap ++ rest) :=
    run_eq_some.2 ⟨rfl, fun char mem => isWord.2 char (isSuffix.subset mem),
      ends_blank (fun _ => isWord_of_isSpace) isGap⟩
  have readKeyword : run Text.isWord (suffix ++ (gap ++ rest)) = some (create, behindCreate) := by
    refine run_eq_some.2 ⟨split, isWord_of_isSpelling (by decide) spelled, ?_⟩
    rw [sameGap]
    exact ends_blank (fun _ => isWord_of_isSpace) ⟨someBlanks, isBlanks⟩
  rw [readSuffix] at readKeyword
  cases readKeyword
  rw [someSpaces_append isGap ends] at readGap
  cases readGap
  rw [other] at readTable
  cases readTable

/-! ### Statements that are passed over -/

/-- The statement of a table opens a parenthesis before any semicolon. -/
theorem meets_tableStatement : Meets '(' tableStatement :=
  (takes_letters (by decide)).meets fun _ => takes_blank.meets fun _ =>
    (takes_letters (by decide)).meets fun _ => takes_blank.meets fun _ =>
      takes_quotedName.meets fun _ => takes_blanks.meets fun _ => (meets_mark '(').bind _

/-- The statement of an enum quotes a member before any semicolon. -/
theorem meets_enumStatement : Meets '\'' enumStatement := by
  have opening : Takes (· ≠ ';') (Scan.mark '(') := takes_mark (by decide)
  have member : Meets '\'' memberList := ((meets_mark '\'').bind _).bind _
  exact (takes_letters (by decide)).meets fun _ => takes_blank.meets fun _ =>
    (takes_letters (by decide)).meets fun _ => takes_blank.meets fun _ =>
      (takes_word ne_semicolon_of_isWord).meets fun _ => takes_blank.meets fun _ =>
        (takes_letters (by decide)).meets fun _ => takes_blank.meets fun _ =>
          (takes_letters (by decide)).meets fun _ => takes_blanks.meets fun _ =>
            opening.meets fun _ => takes_blanks.meets fun _ => member.bind _

/-- No statement of a table begins within the statement of an enum. -/
theorem all_tableStatement_enum {name : String} {members : List String} (named : IsWord name.toList)
    (areMembers : ∀ member ∈ members, IsMember member) (written : text ∈ writtenEnum name members)
    (rest : List Char) : all tableStatement (text ++ rest) = all tableStatement rest := by
  rcases exists_of_mem_writtenEnum written with
    ⟨create, isCreate, first, isFirst, kind, isKind, second,
    isSecond, third, isThird, as, isAs, fourth, isFourth, enum, isEnum, fifth, isFifth, list,
    isList, last, isLast, rfl⟩
  have freeMembers : Free ['('] (listed (members.map writtenMember)) := by
    apply free_listed (by decide) (by decide)
    intro language mem
    rcases List.mem_map.1 mem with ⟨member, memMember, rfl⟩
    exact (free_member (areMembers member memMember)).fewer (by decide)
  have noOpening : '(' ∉ list ++ ')' :: last := by
    rw [List.mem_append, List.mem_cons]
    rintro (inList | impossible | inLast)
    · exact freeMembers list isList '(' inList (by decide)
    · cases impossible
    · cases isLast '(' inLast
  -- The name may be that of the first keyword, so that what stands behind it counts.
  have noTable : ∀ rest, Scan.keyword "TABLE" (kind ++ rest) = none :=
    keyword_append_eq_none 1 'A' 'Y' (by decide) (by decide) (by decide) (by decide) isKind
  have noTableAs : ∀ rest, Scan.keyword "TABLE" (as ++ rest) = none :=
    keyword_append_eq_none 0 'T' 'A' (by decide) (by decide) (by decide) (by decide) isAs
  have plainOpening : ∀ char ∈ ['('], small char ≠ 'c' := by decide
  have isCreateWord : IsWord create := isWord_of_keyword ⟨by decide, by decide⟩ isCreate
  have passed := all_append_of_meets meets_tableStatement noOpening (by decide) rest
  simp only [List.append_assoc, List.cons_append, List.nil_append] at passed ⊢
  rw [all_tableStatement_word isCreateWord isFirst (ends_keyword ⟨'T', rfl, by decide⟩ isKind)
    (noTable _), all_append_of_plain tableStatement_starts (plain_keyword (by decide) isKind),
    all_append_of_plain tableStatement_starts (plain_blanks isSecond.2),
    all_tableStatement_word named isThird (ends_keyword ⟨'A', rfl, by decide⟩ isAs) (noTableAs _),
    all_append_of_plain tableStatement_starts (plain_keyword (by decide) isAs),
    all_append_of_plain tableStatement_starts (plain_blanks isFourth.2),
    all_append_of_plain tableStatement_starts (plain_keyword (by decide) isEnum),
    all_append_of_plain tableStatement_starts (plain_blanks isFifth), ← passed]
  exact all_append_of_plain tableStatement_starts plainOpening _

/-- No statement of an enum begins within the statement of a table that quotes nothing. -/
theorem all_enumStatement_written {name : String} {inside : Language Char}
    (named : IsWord name.toList) (items : Free ['\''] inside)
    (written : text ∈ writtenStatement name inside) (rest : List Char) :
    all enumStatement (text ++ rest) = all enumStatement rest := by
  have cut : writtenStatement name inside = (keyword "CREATE" * (blank * (keyword "TABLE" * (blank *
      (writtenName name * (blanks * (mark '(' * (inside * (mark ')' * blanks))))))))) *
        mark ';' := by
    simp only [writtenStatement, mul_assoc]
  have spaces : Free ['\''] blanks := free_blanks.fewer (by decide)
  have space : Free ['\''] blank := free_blank.fewer (by decide)
  have name : Free ['\''] (writtenName name) := (free_name named).fewer (by decide)
  have opening : Free ['\''] (mark '(') := free_mark (by decide)
  have closing : Free ['\''] (mark ')') := free_mark (by decide)
  have create : Free ['\''] (keyword "CREATE") := free_keyword (by decide)
  have kind : Free ['\''] (keyword "TABLE") := free_keyword (by decide)
  have body := name.mul (spaces.mul (opening.mul (items.mul (closing.mul spaces))))
  have free := create.mul (space.mul (kind.mul (space.mul body)))
  rw [cut] at written
  rcases Language.mem_mul.1 written with ⟨part, isPart, _, rfl, rfl⟩
  have noQuote : '\'' ∉ part := fun mem => free part isPart '\'' mem (by decide)
  have passed := all_append_of_meets meets_enumStatement noQuote (by decide) rest
  simpa using passed

theorem all_enumStatement_table {table : Table} (isTable : IsTable enums table)
    (written : text ∈ writtenTable table) (rest : List Char) :
    all enumStatement (text ++ rest) = all enumStatement rest :=
  all_enumStatement_written isTable.name ((free_items isTable).fewer (by decide)) written rest

/-- The statement of a table is one find, which the finds behind it follow. -/
theorem all_tableStatement_written {name : String} {inside : Language Char}
    (named : IsWord name.toList) (noEnd : ∀ body ∈ inside, ';' ∉ body)
    (written : text ∈ writtenStatement name inside) :
    ∃ body ∈ inside, ∀ rest, all tableStatement (text ++ rest) =
    (name, body) :: all tableStatement rest := by
  rcases tableStatement_written named noEnd written with ⟨body, isBody, read⟩
  refine ⟨body, isBody, fun rest => all_of_some (read rest) ?_⟩
  have nonempty : text ≠ [] := by
    rintro rfl
    cases read []
  have positive := List.length_pos_of_ne_nil nonempty
  rw [List.length_append]
  omega

/-! ### Scripts -/

/-- A statement whose names and items can be said. -/
def Statement.IsReadable (enums : Enums) : Statement → Prop
  | ofEnum name members => IsWord name.toList ∧ ∀ member ∈ members, IsMember member
  | ofTable table => IsTable enums table

/-- What a scan finds in statements one after the other is what it finds in each of them. -/
theorem map_all_sequenced {Item Found Value : Type} {scan : Scan Found} {read : Found → Value}
    {language : Item → Language Char} {value? : Item → Option Value} {items : List Item}
    (starts : ∀ {text}, Scan.keyword "CREATE" text = none → scan text = none)
    (step : ∀ item ∈ items, ∀ text ∈ language item, ∀ rest,
      (all scan (text ++ rest)).map read = (value? item).toList ++ (all scan rest).map read)
    (written : text ∈ sequenced (items.map language)) :
    (all scan text).map read = items.filterMap value? := by
  induction items generalizing text with
  | nil =>
    have noStatement := all_append_of_plain starts (plain_blanks written) []
    rw [List.append_nil] at noStatement
    rw [noStatement]
    simp [all]
  | cons item more ih =>
    rcases Language.mem_mul.1 written with ⟨before, isBefore, _, behindBefore, rfl⟩
    rcases Language.mem_mul.1 behindBefore with ⟨part, isPart, others, isOthers, rfl⟩
    have readOthers := ih (fun other mem => step other (List.mem_cons_of_mem _ mem)) isOthers
    rw [all_append_of_plain starts (plain_blanks isBefore),
      step item List.mem_cons_self part isPart, readOthers, List.filterMap_cons]
    cases value? item <;> rfl

theorem map_all_tableStatement {statement : Statement} (isReadable : statement.IsReadable enums)
    (written : text ∈ statement.written) (rest : List Char) :
    (all tableStatement (text ++ rest)).map (fun (name, body) => tableOf name body) =
      (statement.table?.map Table.withoutEnums).toList ++
        (all tableStatement rest).map fun (name, body) => tableOf name body := by
  cases statement with
  | ofEnum name members =>
    rw [all_tableStatement_enum isReadable.1 isReadable.2 written]
    rfl
  | ofTable table =>
    have noEnd : ∀ body ∈ listed ((fragmentsOf table).map Fragment.written), ';' ∉ body :=
      fun _ isBody => (free_items isReadable).not_mem isBody (by decide)
    rcases all_tableStatement_written isReadable.name noEnd written with ⟨body, isBody, found⟩
    rw [found, List.map_cons]
    change tableOf table.name body :: _ = _
    rw [tableOf_listed isReadable isBody]
    rfl

/-- The tables of a script are read in their order, with their enums left open. -/
theorem tables_script {statements : List Statement}
    (areReadable : ∀ statement ∈ statements, statement.IsReadable enums)
    (written : text ∈ script statements) :
    tables text = (statements.filterMap Statement.table?).map Table.withoutEnums := by
  rw [script_eq_sequenced] at written
  rw [List.map_filterMap]
  apply map_all_sequenced tableStatement_starts _ written
  intro statement mem part isPart
  exact map_all_tableStatement (areReadable statement mem) isPart

theorem map_all_enumStatement {statement : Statement} (isReadable : statement.IsReadable enums)
    (written : text ∈ statement.written) (rest : List Char) :
    (all enumStatement (text ++ rest)).map (fun (name, written) => (name, membersOf written)) =
      statement.enum?.toList ++
        (all enumStatement rest).map fun (name, written) => (name, membersOf written) := by
  cases statement with
  | ofEnum name members =>
    rcases enumStatement_append isReadable.1 isReadable.2 written with
      ⟨core, isCore, gap, isGap, within, read⟩
    have shorter : (gap ++ ';' :: rest).length < (text ++ rest).length := by
      simp only [List.length_append, List.length_cons]
      omega
    -- The end of the statement is left for the next one, which does not begin in it.
    have plainEnd : ∀ char ∈ [';'], small char ≠ 'c' := by decide
    have behind : all enumStatement (gap ++ ([';'] ++ rest)) = all enumStatement rest := by
      rw [all_append_of_plain enumStatement_starts (plain_blanks isGap),
        all_append_of_plain enumStatement_starts plainEnd]
    rw [List.singleton_append] at behind
    rw [all_of_some (read rest) shorter, List.map_cons, behind]
    change (name, membersOf core) :: _ = _
    rw [membersOf_joined isReadable.2 isCore]
    rfl
  | ofTable table =>
    rw [all_enumStatement_table isReadable written]
    rfl

/-- The enums of a script are read in their order. -/
theorem enums_script {statements : List Statement}
    (areReadable : ∀ statement ∈ statements, statement.IsReadable enums)
    (written : text ∈ script statements) :
    (all enumStatement text).map (fun (name, written) => (name, membersOf written)) =
      statements.filterMap Statement.enum? := by
  rw [script_eq_sequenced] at written
  apply map_all_sequenced enumStatement_starts _ written
  intro statement mem part isPart
  exact map_all_enumStatement (areReadable statement mem) isPart

/-! ### Schemas -/

theorem IsColumn.isOf {column : Column} (isColumn : IsColumn enums column) : column.IsOf enums :=
  ⟨isColumn.isEnum, isColumn.enumValues⟩

namespace IsSchema

variable {tables : List Table}

/-- A key that leads to a column of a table refers to words. -/
theorem isClause (isSchema : IsSchema enums tables) {table : Table} (memTable : table ∈ tables)
    {key : ForeignKey} (mem : key ∈ table.foreignKeys) : IsClause key := by
  have isKey := isSchema.keys table memTable key mem
  rcases isKey.leads with ⟨target, isFirst, column, memColumn, sameColumn⟩
  have memTarget : target ∈ tables := List.mem_of_find?_eq_some isFirst
  have sameTable : target.name = key.referenceTable := by simpa using List.find?_some isFirst
  refine ⟨isKey.column, ?_, ?_, isKey.relation⟩
  · rw [← sameTable]
    exact isSchema.tableNames target memTarget
  · rw [← sameColumn]
    exact (isSchema.columns target memTarget column memColumn).name

theorem isTable (isSchema : IsSchema enums tables) {table : Table} (mem : table ∈ tables) :
    IsTable enums table := by
  refine ⟨isSchema.tableNames table mem, ?_⟩
  intro item memItem
  rcases List.mem_append.1 memItem with isColumn | isKey
  · rcases List.mem_map.1 isColumn with ⟨column, memColumn, rfl⟩
    exact isSchema.columns table mem column memColumn
  · rcases List.mem_map.1 isKey with ⟨key, memKey, rfl⟩
    exact isSchema.isClause mem memKey

theorem isReadable {statements : List Statement}
    (isSchema : IsSchema (statements.filterMap Statement.enum?)
      (statements.filterMap Statement.table?)) :
    ∀ statement ∈ statements, statement.IsReadable (statements.filterMap Statement.enum?) := by
  intro statement mem
  cases statement with
  | ofEnum name members =>
    have memEnum : (name, members) ∈ statements.filterMap Statement.enum? :=
      List.mem_filterMap.2 ⟨_, mem, rfl⟩
    exact ⟨isSchema.enumNames _ memEnum, isSchema.members _ memEnum⟩
  | ofTable table => exact isSchema.isTable (List.mem_filterMap.2 ⟨_, mem, rfl⟩)

end IsSchema

/-- Enums and tables that are written in SQL are read back: the same tables in the same order, with
the same columns, flags, keys and enums. -/
theorem parse_script {statements : List Statement}
    (isSchema : IsSchema (statements.filterMap Statement.enum?)
      (statements.filterMap Statement.table?))
    (written : text ∈ script statements) :
    (parse text).result = statements.filterMap Statement.table? := by
  have readTables := tables_script isSchema.isReadable written
  have readEnums : Sql.enums text = statements.filterMap Statement.enum? := by
    rw [Sql.enums, enums_script isSchema.isReadable written,
      Keyed.ofPairs_of_nodup isSchema.distinct]
  have restored := Table.settle_withoutEnums
    (fun table mem column memColumn => (isSchema.columns table mem column memColumn).isOf)
    fun table mem key memKey => (isSchema.keys table mem key memKey).leads
  simp only [parse, Logged.result_bind, readTables, readEnums, restored]

/-- A schema whose names are keywords. -/
def keywordStatements : List Statement := [
  .ofTable ⟨"CREATE", [⟨"PK_NOT", "varchar(20)", true, true, some false, none⟩],
    [⟨"REFERENCES", "TABLE", "FK", none⟩]⟩,
  .ofEnum "AS" ["so so", "fine"],
  .ofTable ⟨"TABLE", [⟨"FK", "AS", false, false, some true, some ["so so", "fine"]⟩], []⟩]

theorem isSchema_keywordStatements : IsSchema (keywordStatements.filterMap Statement.enum?)
    (keywordStatements.filterMap Statement.table?) where
  distinct := by decide
  enumNames := by
    intro enum mem
    rw [List.mem_singleton.1 mem]
    exact ⟨by decide, by decide⟩
  members := by
    intro enum mem
    rw [List.mem_singleton.1 mem]
    decide
  tableNames := by
    intro table mem
    rcases List.mem_pair.1 mem with rfl | rfl <;> exact ⟨by decide, by decide⟩
  columns := by
    intro table mem column memColumn
    rcases List.mem_pair.1 mem with rfl | rfl
    · rw [List.mem_singleton.1 memColumn]
      refine ⟨⟨by decide, by decide⟩, .inr ⟨"varchar".toList, "20".toList, ?_⟩,
        fun _ => rfl, rfl, rfl⟩
      exact ⟨⟨by decide, by decide⟩, ⟨by decide, by decide⟩, rfl⟩
    · rw [List.mem_singleton.1 memColumn]
      exact ⟨⟨by decide, by decide⟩, .inl ⟨by decide, by decide⟩, by unfold IsKeyName; decide, rfl,
        rfl⟩
  keys := by
    intro table mem key memKey
    rcases List.mem_pair.1 mem with rfl | rfl
    · rw [List.mem_singleton.1 memKey]
      exact ⟨⟨by decide, by decide⟩, ⟨_, rfl, _, List.mem_cons_self, rfl⟩, rfl⟩
    · cases memKey

theorem parse_script_keywords :
    (parse (scriptText keywordStatements)).result =
      keywordStatements.filterMap Statement.table? := by
  have areFilled : ∀ statement ∈ keywordStatements, statement.IsFilled := by
    simp [keywordStatements, Statement.IsFilled, fragmentsOf]
  exact parse_script isSchema_keywordStatements (scriptText_mem areFilled)

end Schemagram.Sql
