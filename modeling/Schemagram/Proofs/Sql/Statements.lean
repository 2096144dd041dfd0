import Schemagram.Proofs.Sql.Body

/-!
# Written statements are read

The statement of a table is read up to its semicolon.  The statement of an enum is read up to the
parenthesis behind its members, so that white space and a semicolon are left of it.
-/

namespace Schemagram.Sql

open Text Writing
open Scan hiding keyword mark

variable {text rest : List Char} {enums : Enums}

/-! ### Tables -/

/-- A table whose name is a word and whose items can be said. -/
structure IsTable (enums : Enums) (table : Table) : Prop where
  name : IsWord table.name.toList
  items : ∀ item ∈ fragmentsOf table, item.IsWritable enums

/-- The marks that end a statement, and the quote of a member. -/
def stops : List Char := [';', '\'']

theorem free_items {table : Table} (isTable : IsTable enums table) :
    Free stops (listed ((fragmentsOf table).map Fragment.written)) := by
  apply free_listed (by decide) (by decide)
  intro language mem
  rcases List.mem_map.1 mem with ⟨item, memItem, rfl⟩
  exact (free_fragment (isTable.items item memItem)).fewer (by decide)

/-- The words `CREATE TABLE`, a name with or without quotes, and an opening parenthesis. -/
def header (name : String) : Language Char :=
  keyword "CREATE" * (blank * (keyword "TABLE" * (blank *
    (anyQuote * (exactly name.toList * (anyQuote * (blanks * mark '(')))))))

/-- A text that begins with a header, with the name in it and what follows it. -/
def Opens (text : List Char) (name : String) (rest : List Char) : Prop :=
  IsWord name.toList ∧ ∃ head ∈ header name, text = head ++ rest

/-- A header is read whatever follows it. -/
theorem tableStatement_of_opens {name : String} {inside after : List Char}
    (opens : Opens text name rest) (read : body rest = some (inside, after)) :
    tableStatement text = some ((name, inside), after) := by
  rcases opens with ⟨named, head, isHead, rfl⟩
  rcases Language.mem_mul.1 isHead with ⟨create, isCreate, _, behindCreate, rfl⟩
  rcases Language.mem_mul.1 behindCreate with ⟨gap, isGap, _, behindGap, rfl⟩
  rcases Language.mem_mul.1 behindGap with ⟨table, isTable, _, behindTable, rfl⟩
  rcases Language.mem_mul.1 behindTable with ⟨space, isBlank, _, behindSpace, rfl⟩
  rcases Language.mem_mul.1 behindSpace with ⟨first, isFirst, _, behindFirst, rfl⟩
  rcases Language.mem_mul.1 behindFirst with ⟨_, rfl, _, behindName, rfl⟩
  rcases Language.mem_mul.1 behindName with ⟨second, isSecond, _, behindSecond, rfl⟩
  rcases Language.mem_mul.1 behindSecond with ⟨margin, isMargin, _, rfl, rfl⟩
  have startsName (rest : List Char) : Ends isSpace (first ++ (name.toList ++ rest)) :=
    ends_anyQuote isFirst (fun _ => isSpace_of_isQuote) (ends_isSpace_of_isWord named)
  have endsName : EndsName (margin ++ '(' :: rest) :=
    endsName_of_blanks isMargin (endsName_parenthesis (.inl rfl) rest)
  simp only [tableStatement, bind_eq_some, pure_eq_some, List.append_assoc, List.singleton_append]
  exact ⟨(), _, keyword_append isCreate _, (), _,
    someSpaces_append isGap (ends_keyword ⟨'T', rfl, by decide⟩ isTable),
    (), _, keyword_append isTable _, (), _, someSpaces_append isBlank (startsName _), name, _,
    quotedName_quotes named isFirst isSecond endsName, (), _,
    spaces_append isMargin (by simp [isSpace]), (), _,
    mark_cons '(' _, inside, _, read, rfl, rfl⟩

/-- A written statement begins with a header. -/
theorem within_writtenStatement (name : String) (inside : Language Char) :
    Within (writtenStatement name inside)
    (header name * (inside * (mark ')' * (blanks * mark ';')))) := by
  have quoted : Within (writtenName name) (anyQuote * (exactly name.toList * anyQuote)) := by
    intro text written
    rcases exists_quotes_of_writtenName written with ⟨first, isFirst, second, isSecond, rfl⟩
    exact Language.append_mem_mul isFirst (Language.append_mem_mul (mem_exactly.2 rfl) isSecond)
  have cut : header name * (inside * (mark ')' * (blanks * mark ';'))) =
      keyword "CREATE" * (blank * (keyword "TABLE" *
      (blank * (anyQuote * (exactly name.toList * anyQuote) * (blanks * (mark '(' *
        (inside * (mark ')' * (blanks * mark ';'))))))))) := by
    simp only [header, mul_assoc]
  rw [cut]
  exact (within_refl _).mul ((within_refl _).mul ((within_refl _).mul ((within_refl _).mul
    (quoted.mul (within_refl _)))))

/-- A statement without a semicolon in its body is read up to its own one. -/
theorem tableStatement_written {name : String} {inside : Language Char} (named : IsWord name.toList)
    (noEnd : ∀ body ∈ inside, ';' ∉ body) (written : text ∈ writtenStatement name inside) :
    ∃ body ∈ inside, ∀ rest, tableStatement (text ++ rest) = some ((name, body), rest) := by
  rcases Language.mem_mul.1 (within_writtenStatement name inside _ written) with
    ⟨head, isHead, _, behindHead, rfl⟩
  rcases Language.mem_mul.1 behindHead with ⟨body, isBody, _, behindBody, rfl⟩
  rcases Language.mem_mul.1 behindBody with ⟨_, rfl, _, behindClosing, rfl⟩
  rcases Language.mem_mul.1 behindClosing with ⟨last, isLast, _, rfl, rfl⟩
  refine ⟨body, isBody, fun rest => ?_⟩
  have read := tableStatement_of_opens ⟨named, head, isHead, rfl⟩
    (body_append (noEnd body isBody) isLast rest)
  simpa using read

theorem tableOf_listed {table : Table} (isTable : IsTable enums table) {body : List Char}
    (written : body ∈ listed ((fragmentsOf table).map Fragment.written)) :
    tableOf table.name body = table.withoutEnums := by
  have read := fragments_listed isTable.items written
  have columns : (fragments body).filterMap Fragment.column? =
      table.columns.map Column.withoutEnum := by
    simp [read, fragmentsOf, List.filterMap_map, Function.comp_def, Fragment.withoutEnum,
      Fragment.column?]
  have keys : (fragments body).filterMap Fragment.key? = table.foreignKeys := by
    simp [read, fragmentsOf, List.filterMap_map, Function.comp_def, Fragment.withoutEnum,
      Fragment.key?]
  rw [tableOf, columns, keys, Table.withoutEnums]

/-! ### Members -/

/-- A member of an enum that a statement can say. -/
def IsMember (member : String) : Prop :=
  member ≠ "" ∧ ∀ char ∈ member.toList, char ∉ ['\'', ',', '(', ')', ';']

/-- A written member holds no mark besides its quotes. -/
theorem free_member {member : String} (isMember : IsMember member) :
    Free [',', '(', ')', ';'] (writtenMember member) := by
  have noQuote : '\'' ∉ [',', '(', ')', ';'] := by decide
  have fewer : ∀ char ∈ [',', '(', ')', ';'], char ∈ ['\'', ',', '(', ')', ';'] := by decide
  rintro _ rfl char mem isMark
  rw [List.mem_append, List.mem_cons, List.mem_singleton] at mem
  rcases mem with (rfl | inside) | rfl
  · exact noQuote isMark
  · exact isMember.2 char inside (fewer char isMark)
  · exact noQuote isMark

theorem IsMember.noQuote {member : String} (isMember : IsMember member) : '\'' ∉ member.toList := by
  intro mem
  exact isMember.2 '\'' mem (by decide)

theorem quotedMember_append {member : String} (noQuote : '\'' ∉ member.toList)
    (written : text ∈ writtenMember member) (rest : List Char) :
    quotedMember (text ++ rest) = some (text, rest) := by
  cases written
  have isRun : ∀ char ∈ member.toList, decide (char ≠ '\'') = true := by
    intro char mem
    rw [decide_eq_true_eq]
    rintro rfl
    exact noQuote mem
  have readInside : run (· ≠ '\'') (member.toList ++ '\'' :: rest) =
      some (member.toList, '\'' :: rest) :=
    run_eq_some.2 ⟨rfl, isRun, by simp⟩
  simp only [quotedMember, bind_eq_some, pure_eq_some, List.cons_append, List.append_assoc,
    List.nil_append]
  exact ⟨(), _, mark_cons '\'' _, member.toList, _, readInside, (), rest,
    mark_cons '\'' rest, rfl, rfl⟩

theorem ends_writtenMember {member : String} (written : text ∈ writtenMember member) :
    Ends isSpace (text ++ rest) := by
  cases written
  simp [isSpace]

/-- Between the members of an enum and its closing parenthesis stands no further member. -/
theorem nextMember_closing (isBlanks : text ∈ blanks) (rest : List Char) :
    nextMember (text ++ ')' :: rest) = none := by
  rw [Option.eq_none_iff_forall_ne_some]
  rintro ⟨found, after⟩ read
  simp only [nextMember, bind_eq_some, run_eq_some, mark_eq_some] at read
  rcases read with ⟨before, _, ⟨split, isBefore, ends⟩, _, behind, rfl, _⟩
  have readBlanks : run isSpace (text ++ ')' :: rest) = some (text, ')' :: rest) :=
    run_eq_some.2 ⟨rfl, isBlanks, by simp [isSpace]⟩
  rw [run_eq_some.2 ⟨split, isBefore, ends⟩] at readBlanks
  cases readBlanks

theorem nextMember_append {before after found : List Char} (isBefore : before ∈ blanks)
    (isAfter : after ∈ blanks) (read : quotedMember text = some (found, rest))
    (ends : Ends isSpace text) :
    nextMember (before ++ ',' :: (after ++ text)) =
      some (before ++ ',' :: after ++ found, rest) := by
  have readBefore : run isSpace (before ++ ',' :: (after ++ text)) =
      some (before, ',' :: (after ++ text)) := run_eq_some.2 ⟨rfl, isBefore, by simp [isSpace]⟩
  have readAfter : run isSpace (after ++ text) = some (after, text) :=
    run_eq_some.2 ⟨rfl, isAfter, ends⟩
  simp only [nextMember, bind_eq_some, pure_eq_some]
  exact ⟨before, _, readBefore, (), _, mark_cons ',' _, after, _, readAfter, found, rest,
    read, rfl, rfl⟩

/-- A member ends within the text. -/
theorem length_of_quotedMember {found : List Char} (read : quotedMember text = some (found, rest)) :
    rest.length ≤ text.length := by
  simp only [quotedMember, bind_eq_some, mark_eq_some, run_eq_some, pure_eq_some] at read
  rcases read with ⟨_, _, rfl, inside, _, ⟨rfl, _⟩, _, _, rfl, _, rfl⟩
  simp only [List.length_cons, List.length_append]
  omega

theorem ends_members {members : List String} (written : text ∈ joined (members.map writtenMember)) :
    Ends isSpace (text ++ rest) := by
  cases members with
  | nil => cases written
  | cons first more =>
    cases more with
    | nil => exact ends_writtenMember written
    | cons second more =>
      rcases Language.mem_mul.1 written with ⟨member, isMember, _, _, rfl⟩
      rw [List.append_assoc]
      exact ends_writtenMember isMember

/-- The members of an enum are read as they are written, up to where no further one follows. -/
theorem memberList_append {members : List String}
    (noQuotes : ∀ member ∈ members, '\'' ∉ member.toList)
    (written : text ∈ joined (members.map writtenMember)) (last : nextMember rest = none) :
    memberList (text ++ rest) = some (text, rest) := by
  induction members generalizing text with
  | nil => cases written
  | cons first more ih =>
    have isFirst := noQuotes first List.mem_cons_self
    cases more with
    | nil =>
      simp only [memberList, bind_eq_some, pure_eq_some]
      exact ⟨text, rest, quotedMember_append isFirst written rest, [], rest, many_of_none last,
        by simp, rfl⟩
    | cons second more =>
      rcases Language.mem_mul.1 written with ⟨member, isMember, _, behindMember, rfl⟩
      rcases Language.mem_mul.1 behindMember with ⟨before, isBefore, _, behindBefore, rfl⟩
      rcases Language.mem_mul.1 behindBefore with ⟨_, rfl, _, behindComma, rfl⟩
      rcases Language.mem_mul.1 behindComma with ⟨after, isAfter, others, isOthers, rfl⟩
      have readOthers :=
        ih (fun other mem => noQuotes other (List.mem_cons_of_mem first mem)) isOthers
      simp only [memberList, bind_eq_some, pure_eq_some] at readOthers ⊢
      rcases readOthers with ⟨found, behind, readNext, pieces, left, readPieces, same, isLeft⟩
      rw [isLeft] at readPieces
      have next := nextMember_append isBefore isAfter readNext (ends_members isOthers)
      have shorter : behind.length < (before ++ ',' :: (after ++ (others ++ rest))).length := by
        have isWithin := length_of_quotedMember readNext
        simp only [List.length_append, List.length_cons] at isWithin ⊢
        omega
      refine ⟨member, before ++ ',' :: (after ++ (others ++ rest)), ?_,
        (before ++ ',' :: after ++ found) :: pieces, rest,
        many_of_some next shorter readPieces, ?_, rfl⟩
      · have read := quotedMember_append isFirst isMember
          (before ++ ',' :: (after ++ (others ++ rest)))
        simpa using read
      · rw [← same]
        simp

theorem unquoteMember_written {member : String} {before after : List Char}
    (isBefore : before ∈ blanks) (written : text ∈ writtenMember member)
    (isAfter : after ∈ blanks) :
    unquoteMember (before ++ text ++ after) = member.toList := by
  cases written
  have trimmed : trim (before ++ ('\'' :: member.toList ++ ['\'']) ++ after) =
      '\'' :: member.toList ++ ['\''] :=
    trim_append isBefore isAfter (by simp [isSpace])
      (firm_append_singleton ('\'' :: member.toList) (by decide))
  rw [unquoteMember, trimmed]
  simp

theorem membersOf_joined {members : List String} (areMembers : ∀ member ∈ members, IsMember member)
    (written : text ∈ joined (members.map writtenMember)) : membersOf text = members := by
  have pieces : (splitOn ',' text).map unquoteMember = members.map String.toList := by
    apply map_splitOn_listed _ _ (mem_listed_of_joined written)
    · intro member mem text isMember isComma
      exact free_member (areMembers member mem) text isMember ',' isComma (by decide)
    · intro member mem before isBefore text isMember after isAfter
      exact unquoteMember_written isBefore isMember isAfter
  have nonempty : (members.map String.toList).filter (!·.isEmpty) = members.map String.toList := by
    rw [List.filter_eq_self]
    intro piece mem
    rcases List.mem_map.1 mem with ⟨member, memMember, rfl⟩
    simpa using (areMembers member memMember).1
  rw [membersOf, pieces, nonempty, List.map_map]
  simp [Function.comp_def]

/-! ### Enums -/

/-- The parts of the statement of an enum. -/
theorem exists_of_mem_writtenEnumList {name : String} {members : List String}
    (written : text ∈ writtenEnumList name members) :
    ∃ create ∈ keyword "CREATE", ∃ first ∈ blank, ∃ kind ∈ keyword "TYPE", ∃ second ∈ blank,
      ∃ third ∈ blank, ∃ as ∈ keyword "AS", ∃ fourth ∈ blank, ∃ enum ∈ keyword "ENUM",
      ∃ fifth ∈ blanks,
        ∃ list ∈ listed (members.map writtenMember),
          text = create ++ (first ++ (kind ++ (second ++ (name.toList ++ (third ++ (as ++ (fourth ++
            (enum ++ (fifth ++ '(' :: (list ++ [')'])))))))))) := by
  rw [writtenEnumList, Language.mem_mul] at written
  rcases written with ⟨create, isCreate, _, behindCreate, rfl⟩
  rcases Language.mem_mul.1 behindCreate with ⟨first, isFirst, _, behindFirst, rfl⟩
  rcases Language.mem_mul.1 behindFirst with ⟨kind, isKind, _, behindKind, rfl⟩
  rcases Language.mem_mul.1 behindKind with ⟨second, isSecond, _, behindSecond, rfl⟩
  rcases Language.mem_mul.1 behindSecond with ⟨_, rfl, _, behindName, rfl⟩
  rcases Language.mem_mul.1 behindName with ⟨third, isThird, _, behindThird, rfl⟩
  rcases Language.mem_mul.1 behindThird with ⟨as, isAs, _, behindAs, rfl⟩
  rcases Language.mem_mul.1 behindAs with ⟨fourth, isFourth, _, behindFourth, rfl⟩
  rcases Language.mem_mul.1 behindFourth with ⟨enum, isEnum, _, behindEnum, rfl⟩
  rcases Language.mem_mul.1 behindEnum with ⟨fifth, isFifth, _, behindFifth, rfl⟩
  rcases Language.mem_mul.1 behindFifth with ⟨_, rfl, _, behindOpening, rfl⟩
  rcases Language.mem_mul.1 behindOpening with ⟨list, isList, _, rfl, rfl⟩
  exact ⟨create, isCreate, first, isFirst, kind, isKind, second, isSecond, third, isThird, as, isAs,
    fourth, isFourth, enum, isEnum, fifth, isFifth, list, isList, rfl⟩

theorem exists_of_mem_writtenEnum {name : String} {members : List String}
    (written : text ∈ writtenEnum name members) :
    ∃ create ∈ keyword "CREATE", ∃ first ∈ blank, ∃ kind ∈ keyword "TYPE", ∃ second ∈ blank,
      ∃ third ∈ blank, ∃ as ∈ keyword "AS", ∃ fourth ∈ blank, ∃ enum ∈ keyword "ENUM",
      ∃ fifth ∈ blanks,
        ∃ list ∈ listed (members.map writtenMember), ∃ last ∈ blanks,
          text = create ++ (first ++ (kind ++ (second ++ (name.toList ++ (third ++ (as ++ (fourth ++
            (enum ++ (fifth ++ '(' :: (list ++ ')' :: (last ++ [';']))))))))))) := by
  rw [writtenEnum_eq] at written
  rcases Language.mem_mul.1 written with ⟨_, isStatement, _, ending, rfl⟩
  rcases Language.mem_mul.1 ending with ⟨last, isLast, _, rfl, rfl⟩
  rcases exists_of_mem_writtenEnumList isStatement with
    ⟨create, isCreate, first, isFirst, kind, isKind, second,
    isSecond, third, isThird, as, isAs, fourth, isFourth, enum, isEnum, fifth, isFifth, list,
    isList, rfl⟩
  exact ⟨create, isCreate, first, isFirst, kind, isKind, second, isSecond, third, isThird, as, isAs,
    fourth, isFourth, enum, isEnum, fifth, isFifth, list, isList, last, isLast, by simp⟩

/-- The statement of an enum is read whatever follows it, when no member holds a quote. -/
theorem enumStatement_list {name : String} {members : List String} (named : IsWord name.toList)
    (noQuotes : ∀ member ∈ members, '\'' ∉ member.toList)
    (written : text ∈ writtenEnumList name members) :
    ∃ core ∈ joined (members.map writtenMember), ∀ rest,
    enumStatement (text ++ rest) = some ((name, core), rest) := by
  rcases exists_of_mem_writtenEnumList written with
    ⟨create, isCreate, first, isFirst, kind, isKind, second,
    isSecond, third, isThird, as, isAs, fourth, isFourth, enum, isEnum, fifth, isFifth, list,
    isList, rfl⟩
  rw [listed_eq_joined] at isList
  rcases Language.mem_mul.1 isList with ⟨before, isBefore, _, behindBefore, rfl⟩
  rcases Language.mem_mul.1 behindBefore with ⟨core, isCore, after, isAfter, rfl⟩
  refine ⟨core, isCore, fun rest => ?_⟩
  have readMembers := memberList_append noQuotes isCore (nextMember_closing isAfter rest)
  simp only [enumStatement, bind_eq_some, pure_eq_some, List.append_assoc, List.cons_append,
    List.nil_append]
  exact ⟨(), _, keyword_append isCreate _, (), _,
    someSpaces_append isFirst (ends_keyword ⟨'T', rfl, by decide⟩ isKind), (), _,
    keyword_append isKind _,
    (), _, someSpaces_append isSecond (ends_isSpace_of_isWord named), name, _,
    word_append named (ends_blank (fun _ => isWord_of_isSpace) isThird), (), _,
    someSpaces_append isThird (ends_keyword ⟨'A', rfl, by decide⟩ isAs), (), _,
    keyword_append isAs _,
    (), _, someSpaces_append isFourth (ends_keyword ⟨'E', rfl, by decide⟩ isEnum), (), _,
    keyword_append isEnum _, (), _, spaces_append isFifth (by simp [isSpace]), (), _,
    mark_cons '(' _,
    (), _, spaces_append isBefore (ends_members isCore), core, _, readMembers, (), _,
    spaces_append isAfter (by simp [isSpace]), (), _, mark_cons ')' _, rfl, rfl⟩

theorem enumStatement_append {name : String} {members : List String} (named : IsWord name.toList)
    (areMembers : ∀ member ∈ members, IsMember member) (written : text ∈ writtenEnum name members) :
    ∃ core ∈ joined (members.map writtenMember), ∃ gap ∈ blanks, gap.length + 1 < text.length ∧
      ∀ rest, enumStatement (text ++ rest) = some ((name, core), gap ++ ';' :: rest) := by
  rw [writtenEnum_eq] at written
  rcases Language.mem_mul.1 written with ⟨statement, isStatement, _, ending, rfl⟩
  rcases Language.mem_mul.1 ending with ⟨gap, isGap, _, rfl, rfl⟩
  rcases enumStatement_list named (fun member mem => (areMembers member mem).noQuote)
    isStatement with
    ⟨core, isCore, read⟩
  have nonempty : statement ≠ [] := by
    rintro rfl
    cases read []
  refine ⟨core, isCore, gap, isGap, ?_, fun rest => ?_⟩
  · have positive := List.length_pos_of_ne_nil nonempty
    simp only [List.length_append, List.length_singleton]
    omega
  · have readBefore := read (gap ++ ';' :: rest)
    simpa using readBefore

end Schemagram.Sql
