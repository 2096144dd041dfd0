import Schemagram.Proofs.Scan.Types
import Schemagram.Proofs.Sql.Writing

/-!
# Written statements are read
-/

namespace Schemagram.Sql

open Text Writing
open Scan hiding keyword mark

variable {text rest : List Char}

/-! ### Names -/

/-- A quote of a name. -/
def isQuote (char : Char) : Bool := char = backTick || char = '"'

def quote : Scan Unit := do
  let _ ← one isQuote

/-- A quote or nothing. -/
def anyQuote : Language Char := 1 + (mark backTick + mark '"')

/-- Neither a name nor its quote goes on. -/
def EndsName (rest : List Char) : Prop :=
  Ends isWord rest ∧ Ends (fun char => char = backTick || char = '"') rest

theorem optionally_one_cons {accepts : Char → Bool} {char : Char} (accepted : accepts char = true)
    (rest : List Char) : optionally (do let _ ← one accepts) (char :: rest) = some ((), rest) := by
  simp only [optionally, orElse_eq_some, bind_eq_some, one_eq_some, pure_eq_some]
  exact .inl ⟨char, rest, ⟨rfl, accepted⟩, trivial, rfl⟩

theorem optionally_one_of_ends {accepts : Char → Bool} (ends : Ends accepts rest) :
    optionally (do let _ ← one accepts) rest = some ((), rest) := by
  have noChar : one accepts rest = none := by
    cases rest with
    | nil => rfl
    | cons char more =>
      rw [ends_cons] at ends
      simp [one, ends]
  have failed : (do let _ ← one accepts : Scan Unit) rest = none := bind_eq_none noChar
  rw [optionally, orElse_eq_some]
  exact .inr ⟨failed, rfl⟩

theorem mem_anyQuote : text ∈ anyQuote ↔ text = [] ∨ ∃ char, isQuote char = true ∧
    text = [char] := by
  simp only [anyQuote, Language.mem_add, Language.mem_one, mem_mark, isQuote, Bool.or_eq_true,
    decide_eq_true_eq]
  constructor
  · rintro (rfl | rfl | rfl)
    · exact .inl rfl
    · exact .inr ⟨_, .inl rfl, rfl⟩
    · exact .inr ⟨_, .inr rfl, rfl⟩
  · rintro (rfl | ⟨_, rfl | rfl, rfl⟩)
    · exact .inl rfl
    · exact .inr (.inl rfl)
    · exact .inr (.inr rfl)

theorem optionally_quote_append {quotes : List Char} (isQuotes : quotes ∈ anyQuote)
    (ends : Ends (fun char => char = backTick || char = '"') rest) :
    optionally quote (quotes ++ rest) = some ((), rest) := by
  rcases mem_anyQuote.1 isQuotes with rfl | ⟨char, quoted, rfl⟩
  · exact optionally_one_of_ends ends
  · exact optionally_one_cons quoted rest

theorem ends_anyQuote {isInside : Char → Bool} {quotes : List Char} (isQuotes : quotes ∈ anyQuote)
    (outside : ∀ char, isQuote char = true → isInside char = false) (ends : Ends isInside rest) :
    Ends isInside (quotes ++ rest) := by
  rcases mem_anyQuote.1 isQuotes with rfl | ⟨char, quoted, rfl⟩
  · exact ends
  · exact ends_cons.2 (outside char quoted)

/-- A quote is no word character. -/
theorem isWord_of_quote {char : Char} (isQuote : (char = backTick || char = '"') = true) :
    isWord char = false := by
  have all : ∀ quote ∈ [backTick, '"'], isWord quote = false := by decide
  exact all char (by simpa using isQuote)

theorem ends_quote_of_isWord {char : Char} (inWord : isWord char = true) :
    (char = backTick || char = '"') = false := by
  rw [← Bool.not_eq_true]
  intro isQuote
  rw [isWord_of_quote isQuote] at inWord
  cases inWord

/-- A name is read with any quote on each side, also with two that differ. -/
theorem quotedName_quotes {name : String} {first second : List Char} (named : IsWord name.toList)
    (isFirst : first ∈ anyQuote) (isSecond : second ∈ anyQuote) (ends : EndsName rest) :
    quotedName (first ++ (name.toList ++ (second ++ rest))) = some (name, rest) := by
  have endsWord : Ends isWord (second ++ rest) :=
    ends_anyQuote isSecond (fun _ => isWord_of_quote) ends.1
  have noQuote : Ends (fun char => char = backTick || char = '"')
      (name.toList ++ (second ++ rest)) := by
    apply ends_append _ named.1
    intro char mem
    exact ends_quote_of_isWord (named.2 char (List.mem_of_mem_head? mem))
  simp only [quotedName, bind_eq_some, pure_eq_some]
  exact ⟨(), _, optionally_quote_append isFirst noQuote, name, _, word_append named endsWord, (), _,
    optionally_quote_append isSecond ends.2, rfl, rfl⟩

theorem exists_quotes_of_writtenName {name : String} (written : text ∈ writtenName name) :
    ∃ first ∈ anyQuote, ∃ second ∈ anyQuote, text = first ++ (name.toList ++ second) := by
  have bare : [] ∈ anyQuote := mem_anyQuote.2 (.inl rfl)
  have quoted {char : Char} (isQuoted : isQuote char = true) : [char] ∈ anyQuote :=
    mem_anyQuote.2 (.inr ⟨char, isQuoted, rfl⟩)
  simp only [writtenName, Language.mem_add, Language.mem_mul, mem_exactly, mem_mark] at written
  rcases written with (rfl | ⟨_, rfl, _, ⟨_, rfl, _, rfl, rfl⟩, rfl⟩) |
    ⟨_, rfl, _, ⟨_, rfl, _, rfl, rfl⟩, rfl⟩
  · exact ⟨[], bare, [], bare, by simp⟩
  · exact ⟨[backTick], quoted (by decide), [backTick], quoted (by decide), rfl⟩
  · exact ⟨['"'], quoted (by decide), ['"'], quoted (by decide), rfl⟩

theorem quotedName_append {name : String} (named : IsWord name.toList)
    (written : text ∈ writtenName name) (ends : EndsName rest) :
    quotedName (text ++ rest) = some (name, rest) := by
  rcases exists_quotes_of_writtenName written with ⟨first, isFirst, second, isSecond, rfl⟩
  have read := quotedName_quotes named isFirst isSecond ends
  simpa using read

theorem quote_of_isSpace {char : Char} (space : isSpace char = true) :
    (char = backTick || char = '"') = false := by
  have all : ∀ quote ∈ [backTick, '"'], isSpace quote = false := by decide
  rw [← Bool.not_eq_true]
  intro isQuote
  rw [all char (by simpa using isQuote)] at space
  cases space

theorem isSpace_of_isQuote {char : Char} (quoted : isQuote char = true) : isSpace char = false := by
  rw [← Bool.not_eq_true]
  intro space
  rw [isQuote, quote_of_isSpace space] at quoted
  cases quoted

/-- A written name begins with no white space. -/
theorem ends_writtenName {name : String} (named : IsWord name.toList)
    (written : text ∈ writtenName name) :
    Ends isSpace (text ++ rest) := by
  rcases exists_quotes_of_writtenName written with ⟨first, isFirst, second, _, rfl⟩
  rw [List.append_assoc, List.append_assoc]
  exact ends_anyQuote isFirst (fun _ => isSpace_of_isQuote) (ends_isSpace_of_isWord named)

/-! ### Foreign keys -/

theorem endsName_of_blank (written : text ∈ blank) : EndsName (text ++ rest) :=
  ⟨ends_blank (fun _ => isWord_of_isSpace) written, ends_blank (fun _ => quote_of_isSpace) written⟩

theorem endsName_of_blanks (written : text ∈ blanks) (ends : EndsName rest) :
    EndsName (text ++ rest) :=
  ⟨ends_blanks (fun _ => isWord_of_isSpace) written ends.1,
    ends_blanks (fun _ => quote_of_isSpace) written ends.2⟩

theorem endsName_parenthesis {char : Char} (isParenthesis : char = '(' ∨ char = ')')
    (rest : List Char) :
    EndsName (char :: rest) := by
  rcases isParenthesis with rfl | rfl <;> simp [EndsName, isWord, isBasicAlphanumeric, backTick]

theorem inParentheses_append {name : String} (named : IsWord name.toList)
    (written : text ∈ writtenInParentheses name) (rest : List Char) :
    inParentheses (text ++ rest) = some (name, rest) := by
  simp only [writtenInParentheses, Language.mem_mul, mem_mark] at written
  rcases written with ⟨before, isBefore, _, ⟨_, rfl, _, ⟨inner, isInner, _, ⟨written, isWritten, _,
    ⟨after, isAfter, _, rfl, rfl⟩, rfl⟩, rfl⟩, rfl⟩, rfl⟩
  have closed := endsName_of_blanks isAfter (endsName_parenthesis (.inr rfl) rest)
  simp only [inParentheses, bind_eq_some, pure_eq_some, List.append_assoc, List.cons_append,
    List.nil_append]
  exact ⟨(), _, spaces_append isBefore (by simp [isSpace]), (), _, mark_cons '(' _, (), _,
    spaces_append isInner (ends_writtenName named isWritten), name, _,
    quotedName_append named isWritten closed, (), _,
    spaces_append isAfter (by simp [isSpace]), (), _,
    mark_cons ')' _, rfl, rfl⟩

theorem endsName_of_inParentheses {name : String} (written : text ∈ writtenInParentheses name)
    (rest : List Char) : EndsName (text ++ rest) := by
  rcases Language.mem_mul.1 written with ⟨before, isBefore, _, inner, rfl⟩
  rcases Language.mem_mul.1 inner with ⟨_, rfl, _, _, rfl⟩
  rw [List.append_assoc, List.append_assoc]
  exact endsName_of_blanks isBefore (endsName_parenthesis (.inl rfl) _)

theorem foreignKeyword_append
    (written : text ∈ keyword "FOREIGN" * (blank * keyword "KEY") + keyword "FK")
    (rest : List Char) : foreignKeyword (text ++ rest) = some ((), rest) := by
  rw [foreignKeyword, orElse_eq_some]
  rcases written with long | short
  · rcases Language.mem_mul.1 long with ⟨foreign, isForeign, _, more, rfl⟩
    rcases Language.mem_mul.1 more with ⟨gap, isGap, key, isKey, rfl⟩
    left
    simp only [bind_eq_some, List.append_assoc]
    exact ⟨(), _, keyword_append isForeign _, (), _,
      someSpaces_append isGap (ends_keyword ⟨'K', rfl, by decide⟩ isKey), keyword_append isKey _⟩
  · right
    have noForeign : Scan.keyword "FOREIGN" (text ++ rest) = none :=
      keyword_append_eq_none 1 'O' 'K' (by decide) (by decide) (by decide) (by decide) short rest
    exact ⟨bind_eq_none noForeign, keyword_append short rest⟩

theorem foreignKey_append {key : ForeignKey} (isClause : IsClause key)
    (written : text ∈ writtenKey key) (rest : List Char) :
    foreignKey (text ++ rest) = some (key, rest) := by
  rw [writtenKey, Language.mem_mul] at written
  rcases written with ⟨opening, isOpening, _, behindOpening, rfl⟩
  rcases Language.mem_mul.1 behindOpening with ⟨owner, isOwner, _, behindOwner, rfl⟩
  rcases Language.mem_mul.1 behindOwner with ⟨before, isBefore, _, behindGap, rfl⟩
  rcases Language.mem_mul.1 behindGap with ⟨references, isReferences, _, behindReferences, rfl⟩
  rcases Language.mem_mul.1 behindReferences with ⟨gap, isGap, _, targets, rfl⟩
  rcases Language.mem_mul.1 targets with ⟨target, isTarget, last, isLast, rfl⟩
  simp only [foreignKey, bind_eq_some, pure_eq_some, List.append_assoc]
  have endsTarget := endsName_of_inParentheses isLast rest
  refine ⟨(), _, foreignKeyword_append isOpening _, key.column, _,
    inParentheses_append isClause.column isOwner _, (), _,
    spaces_append isBefore (ends_keyword ⟨'R', rfl, by decide⟩ isReferences), (), _,
    keyword_append isReferences _, (), _,
    someSpaces_append isGap (ends_writtenName isClause.table isTarget), key.referenceTable, _,
    quotedName_append isClause.table isTarget endsTarget, key.referenceColumn, _,
    inParentheses_append isClause.referenced isLast rest, ?_, rfl⟩
  rw [← isClause.relation]

/-! ### Columns -/

theorem withText_append {scan : Scan Unit} (read : scan (text ++ rest) = some ((), rest)) :
    withText scan (text ++ rest) = some ((text, ()), rest) := by
  simp [withText, read]

theorem marker_append {long short : String} {gap : List Char} (isGap : gap ∈ blanks)
    (ends : Ends isSpace (text ++ rest))
    (read : (Scan.keyword long <|> Scan.keyword short) (text ++ rest) = some ((), rest)) :
    marker long short (gap ++ (text ++ rest)) = some (text, rest) := by
  simp only [marker, bind_eq_some]
  refine ⟨(), _, spaces_append isGap ends, ?_⟩
  rw [orElse_eq_some]
  left
  rw [map_eq_some]
  exact ⟨_, withText_append read, rfl⟩

theorem marker_missing {long short : String} {gap : List Char} (isGap : gap ∈ blanks)
    (ends : Ends isSpace rest) (noLong : Scan.keyword long rest = none)
    (noShort : Scan.keyword short rest = none) :
    marker long short (gap ++ rest) = some ([], rest) := by
  have noKeyword : (Scan.keyword long <|> Scan.keyword short) rest = none := by
    have tried : (Scan.keyword long <|> Scan.keyword short) rest =
      (Scan.keyword long rest <|> Scan.keyword short rest) := rfl
    rw [tried, noLong, noShort]
    rfl
  simp only [marker, bind_eq_some]
  refine ⟨(), _, spaces_append isGap ends, ?_⟩
  rw [orElse_eq_some]
  refine .inr ⟨?_, rfl⟩
  simp [withText, noKeyword, Functor.map, StateT.map]

/-- A marker in either form is read, when the forms differ in their second letter. -/
theorem keywords_append {long short : String} (expected letter : Char)
    (inLong : long.toList[1]? = some expected) (inShort : short.toList[1]? = some letter)
    (basic : small expected ∉ ['k', 's', 'i']) (differ : small letter ≠ small expected)
    (written : text ∈ keyword long + keyword short) (rest : List Char) :
    (Scan.keyword long <|> Scan.keyword short) (text ++ rest) = some ((), rest) := by
  rw [orElse_eq_some]
  rcases written with isLong | isShort
  · exact .inl (keyword_append isLong rest)
  · exact .inr ⟨keyword_append_eq_none 1 expected letter inLong inShort basic differ isShort rest,
      keyword_append isShort rest⟩

theorem ends_keywords {long short : String}
    (longFirst : ∃ letter ∈ long.toList.head?, isSpace letter = false)
    (shortFirst : ∃ letter ∈ short.toList.head?, isSpace letter = false)
    (written : text ∈ keyword long + keyword short) : Ends isSpace (text ++ rest) := by
  rcases written with isLong | isShort
  · exact ends_keyword longFirst isLong
  · exact ends_keyword shortFirst isShort

/-- The marker of a primary key begins like none of a column that is not nullable. -/
theorem notNull_of_primaryKey (written : text ∈ keyword "PRIMARY KEY" + keyword "PK") :
    Scan.keyword "NOT NULL" text = none ∧ Scan.keyword "NN" text = none := by
  have noStart : ∀ name : String, name.toList[0]? = some 'N' →
      Scan.keyword name (text ++ []) = none := by
    intro name first
    rcases written with long | short
    · exact keyword_append_eq_none 0 'N' 'P' first (by decide) (by decide) (by decide) long []
    · exact keyword_append_eq_none 0 'N' 'P' first (by decide) (by decide) (by decide) short []
  rw [List.append_nil] at noStart
  exact ⟨noStart "NOT NULL" (by decide), noStart "NN" (by decide)⟩

theorem isNotNull_written (written : text ∈ keyword "NOT NULL" + keyword "NN") :
    Markers.isNotNull text = true := by
  rw [Markers.isNotNull, Markers.occurIn]
  rcases written with long | short
  · rw [lower_of_keyword (by decide) long]
    decide
  · rw [lower_of_keyword (by decide) short]
    decide

theorem isPrimaryKey_written (written : text ∈ keyword "PRIMARY KEY" + keyword "PK") :
    Markers.isPrimaryKey text = true := by
  rw [Markers.isPrimaryKey, Markers.occurIn]
  rcases written with long | short
  · rw [lower_of_keyword (by decide) long]
    decide
  · rw [lower_of_keyword (by decide) short]
    decide

/-- The marker of a primary key is white space, and a text that is read as the flag of the
column. -/
theorem primaryKey_read {column : Column}
    (named : IsKeyName column.name → column.isPrimaryKey = true)
    (written : text ∈ writtenPrimaryKey column) :
    ∃ gap word found, text = gap ++ word ∧ gap ∈ blanks ∧ Ends isSpace word ∧
      (Scan.keyword "NOT NULL" word = none ∧ Scan.keyword "NN" word = none) ∧
      (∀ before ∈ blanks, marker "PRIMARY KEY" "PK" (before ++ word) = some (found, [])) ∧
      (Markers.isPrimaryKey found || "pk_".toList.isPrefixOf (lower column.name.toList)) =
        column.isPrimaryKey := by
  have missing : ∀ before ∈ blanks, marker "PRIMARY KEY" "PK" (before ++ []) = some ([], []) :=
    fun before isBefore => marker_missing isBefore (ends_nil _) rfl rfl
  unfold writtenPrimaryKey at written
  cases isKey : column.isPrimaryKey with
  | false =>
    rw [isKey, if_neg (by simp), Language.mem_one] at written
    have notNamed : "pk_".toList.isPrefixOf (lower column.name.toList) = false := by
      rw [← Bool.not_eq_true]
      intro isNamed
      rw [named isNamed] at isKey
      cases isKey
    exact ⟨[], [], [], written, by simp [mem_blanks], ends_nil _, ⟨rfl, rfl⟩, missing,
      by rw [notNamed]; decide⟩
  | true =>
    rw [isKey, if_pos rfl, Language.mem_add] at written
    rcases written with marked | ⟨rfl, isNamed⟩
    · rcases Language.mem_mul.1 marked with ⟨gap, isGap, word, isWord, rfl⟩
      have head : Ends isSpace (word ++ []) :=
        ends_keywords ⟨'P', rfl, by decide⟩ ⟨'P', rfl, by decide⟩ isWord
      refine ⟨gap, word, word, rfl, isGap.2, by simpa using head,
        notNull_of_primaryKey isWord, ?_, ?_⟩
      · intro before isBefore
        have read := marker_append isBefore head
          (keywords_append 'R' 'K' (by decide) (by decide) (by decide) (by decide) isWord [])
        rwa [List.append_nil] at read
      · rw [isPrimaryKey_written isWord]
        rfl
    · refine ⟨[], [], [], rfl, by simp [mem_blanks], ends_nil _, ⟨rfl, rfl⟩, missing, ?_⟩
      rw [isNamed]
      decide

/-- The marker before it is read as the other flag of the column, whatever white space follows. -/
theorem notNull_read {column : Column} (written : text ∈ writtenNotNull column)
    {gap word : List Char} (isGap : gap ∈ blanks) (ends : Ends isSpace word)
    (other : Scan.keyword "NOT NULL" word = none ∧ Scan.keyword "NN" word = none) :
    ∃ found before, before ∈ blanks ∧
      marker "NOT NULL" "NN" (text ++ (gap ++ word)) = some (found, before ++ word) ∧
      (!Markers.isNotNull found) = column.isNullable := by
  unfold writtenNotNull at written
  cases isNullable : column.isNullable with
  | true =>
    rw [isNullable, if_pos rfl, Language.mem_one] at written
    rw [written]
    refine ⟨[], [], by simp [mem_blanks], ?_, by decide⟩
    exact marker_missing isGap ends other.1 other.2
  | false =>
    rw [isNullable, if_neg (by simp)] at written
    rcases Language.mem_mul.1 written with ⟨opening, isOpening, marked, isMarked, rfl⟩
    refine ⟨marked, gap, isGap, ?_, by rw [isNotNull_written isMarked]; rfl⟩
    rw [List.append_assoc]
    exact marker_append isOpening.2
      (ends_keywords ⟨'N', rfl, by decide⟩ ⟨'N', rfl, by decide⟩ isMarked)
      (keywords_append 'O' 'N' (by decide) (by decide) (by decide) (by decide) isMarked _)

theorem ends_writtenMarkers {column : Column} {isInside : Char → Bool}
    (outside : ∀ char, isSpace char = true → isInside char = false)
    (written : text ∈ writtenNotNull column * writtenPrimaryKey column) : Ends isInside text := by
  rcases Language.mem_mul.1 written with ⟨notNull, isNotNull, primaryKey, isPrimaryKey, rfl⟩
  unfold writtenNotNull at isNotNull
  unfold writtenPrimaryKey at isPrimaryKey
  have marked : ∀ {long short : String} {text rest : List Char}, text ∈ writtenMarker long short →
      Ends isInside (text ++ rest) := by
    intro long short text rest isMarked
    rcases Language.mem_mul.1 isMarked with ⟨gap, isGap, _, _, rfl⟩
    rw [List.append_assoc]
    exact ends_blank outside isGap
  split at isNotNull
  · cases (Language.mem_one _).1 isNotNull
    split at isPrimaryKey
    · rcases isPrimaryKey with isMarked | ⟨rfl, _⟩
      · have ends : Ends isInside (primaryKey ++ []) := marked isMarked
        simpa using ends
      · exact ends_nil _
    · cases (Language.mem_one _).1 isPrimaryKey
      exact ends_nil _
  · exact marked isNotNull

theorem IsColumn.hasOneSize {column : Column} {enums : Enums} (isColumn : IsColumn enums column) :
    HasOneSize column.type.toList := hasOneSize_iff.2 isColumn.type

theorem column_append {column : Column} {enums : Enums} (isColumn : IsColumn enums column)
    (written : text ∈ writtenColumn column) : Sql.column text = some (column.withoutEnum, []) := by
  rw [writtenColumn, Language.mem_mul] at written
  rcases written with ⟨name, isName, _, behindName, rfl⟩
  rcases Language.mem_mul.1 behindName with ⟨gap, isGap, _, behindGap, rfl⟩
  rcases Language.mem_mul.1 behindGap with ⟨_, rfl, markers, isMarkers, rfl⟩
  have endsWord : Ends isWord markers := ends_writtenMarkers (fun _ => isWord_of_isSpace) isMarkers
  have endsSize : Ends (· = '(') markers := by
    apply ends_writtenMarkers _ isMarkers
    intro char space
    rw [decide_eq_false_iff_not]
    rintro rfl
    cases space
  have startsType : Ends isSpace (column.type.toList ++ markers) := isColumn.hasOneSize.1.ends
  rcases Language.mem_mul.1 isMarkers with ⟨notNull, isNotNull, primaryKey, isPrimaryKey, rfl⟩
  rcases primaryKey_read isColumn.primaryKey isPrimaryKey with
    ⟨before, word, second, rfl, isBefore, endsSpace, other, readSecond, isKey⟩
  rcases notNull_read isNotNull isBefore endsSpace other with
    ⟨first, between, isBetween, readFirst, isNullable⟩
  simp only [Sql.column, bind_eq_some, pure_eq_some]
  refine ⟨column.name, _, quotedName_append isColumn.name isName (endsName_of_blank isGap), (), _,
    someSpaces_append isGap startsType, column.type, _,
    readsTypes_twoSizes isColumn.hasOneSize.1 endsWord endsSize, first, _,
    readFirst, second, _, readSecond between isBetween, ?_, rfl⟩
  rw [isKey, isNullable]
  rfl

end Schemagram.Sql
