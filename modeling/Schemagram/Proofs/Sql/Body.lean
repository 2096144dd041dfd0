import Schemagram.Proofs.Scan.Characters
import Schemagram.Proofs.Scan.Search
import Schemagram.Proofs.Sql.Reading

/-!
# Written bodies are read

The body of a written table holds no semicolon, so that it ends at its own parenthesis, and its
items hold no comma, so that it is cut between them.  No column is taken for a key, because nothing
opens a parenthesis behind the one that its type may close.
-/

namespace Schemagram

/-- The marks that end an item or a statement, and the quote of a member. -/
def Sql.ends : List Char := [',', ';', '\'']

/-- The marks that stand in no name and in no keyword. -/
def Sql.marks : List Char := ['(', ')', ',', ';', '\'']

theorem Writing.Free.ends {language : Language Char} (free : Writing.Free Sql.marks language) :
    Writing.Free Sql.ends language :=
  free.fewer (by decide)

namespace Sql

open Text Writing
open Scan hiding keyword mark

variable {text rest : List Char}

/-! ### Characters of an item -/

theorem free_blanks : Free marks blanks := Writing.free_blanks (by decide)

theorem free_blank : Free marks blank := Writing.free_blank (by decide)

theorem free_word {name : List Char} (named : IsWord name) : Free marks (exactly name) :=
  Writing.free_word (by decide) named

theorem free_name {name : String} (named : IsWord name.toList) : Free marks (writtenName name) := by
  have bare := free_word named
  have backTicked : Free marks (mark backTick) := free_mark (by decide)
  have doubleQuoted : Free marks (mark '"') := free_mark (by decide)
  exact (bare.add (backTicked.mul (bare.mul backTicked))).add
    (doubleQuoted.mul (bare.mul doubleQuoted))

theorem free_markers (column : Column) :
    Free marks (writtenNotNull column * writtenPrimaryKey column) := by
  have notNull : Free marks (writtenMarker "NOT NULL" "NN") :=
    free_blank.mul ((free_keyword (by decide)).add (free_keyword (by decide)))
  have primaryKey : Free marks (writtenMarker "PRIMARY KEY" "PK") :=
    free_blank.mul ((free_keyword (by decide)).add (free_keyword (by decide)))
  have implied : Free marks (impliedByName column) := by
    rintro _ ⟨rfl, _⟩ char mem
    cases mem
  apply Free.mul
  · unfold writtenNotNull
    split
    · exact free_one
    · exact notNull
  · unfold writtenPrimaryKey
    split
    · exact primaryKey.add implied
    · exact free_one

theorem free_inParentheses {name : String} (named : IsWord name.toList) :
    Free ends (writtenInParentheses name) := by
  have closing := (free_blanks.ends).mul (free_mark (by decide : ')' ∉ ends))
  have inner := (free_blanks.ends).mul ((free_name named).ends.mul closing)
  exact (free_blanks.ends).mul ((free_mark (by decide)).mul inner)

theorem free_key {key : ForeignKey} (isClause : IsClause key) : Free ends (writtenKey key) := by
  have opening : Free ends (keyword "FOREIGN" * (blank * keyword "KEY") + keyword "FK") :=
    ((free_keyword (by decide)).mul (free_blank.ends.mul (free_keyword (by decide)))).add
      (free_keyword (by decide))
  have target := free_blank.ends.mul
    ((free_name isClause.table).ends.mul (free_inParentheses isClause.referenced))
  have references : Free ends (keyword "REFERENCES") := free_keyword (by decide)
  exact opening.mul
    ((free_inParentheses isClause.column).mul (free_blanks.ends.mul (references.mul target)))

theorem free_column {enums : Enums} {column : Column} (isColumn : IsColumn enums column) :
    Free ends (writtenColumn column) := by
  have typed := (isColumn.hasOneSize.free (by decide)).mul (free_markers column).ends
  exact (free_name isColumn.name).ends.mul (free_blank.ends.mul typed)

/-! ### Ends of an item -/

theorem firm_closing (before : List Char) : Firm (before ++ [')']) :=
  firm_append_singleton before (by decide)

theorem firm_marker {long short : String}
    (longLast : ∃ letter ∈ long.toList.getLast?, isSpace letter = false)
    (shortLast : ∃ letter ∈ short.toList.getLast?, isSpace letter = false)
    (written : text ∈ writtenMarker long short) : Firm text := by
  rcases Language.mem_mul.1 written with ⟨gap, _, word, isMarker, rfl⟩
  rcases isMarker with isLong | isShort
  · refine (firm_keyword longLast isLong).append ?_
    rintro rfl
    rcases longLast with ⟨letter, isLast, _⟩
    rw [List.map_eq_nil_iff.1 (Eq.symm isLong)] at isLast
    cases isLast
  · refine (firm_keyword shortLast isShort).append ?_
    rintro rfl
    rcases shortLast with ⟨letter, isLast, _⟩
    rw [List.map_eq_nil_iff.1 (Eq.symm isShort)] at isLast
    cases isLast

theorem firm_column {enums : Enums} {column : Column} (isColumn : IsColumn enums column)
    (written : text ∈ writtenColumn column) : Firm text := by
  rw [writtenColumn, Language.mem_mul] at written
  rcases written with ⟨name, _, _, behindName, rfl⟩
  rcases Language.mem_mul.1 behindName with ⟨gap, _, _, behindGap, rfl⟩
  rcases Language.mem_mul.1 behindGap with ⟨_, rfl, _, isMarkers, rfl⟩
  rcases Language.mem_mul.1 isMarkers with ⟨notNull, isNotNull, primaryKey, isPrimaryKey, rfl⟩
  have firmNotNull : Firm notNull := by
    unfold writtenNotNull at isNotNull
    split at isNotNull
    · rw [(Language.mem_one _).1 isNotNull]
      simp [Firm]
    · exact firm_marker ⟨'L', rfl, by decide⟩ ⟨'N', rfl, by decide⟩ isNotNull
  have firmPrimaryKey : Firm primaryKey := by
    unfold writtenPrimaryKey at isPrimaryKey
    split at isPrimaryKey
    · rcases isPrimaryKey with marked | ⟨rfl, _⟩
      · exact firm_marker ⟨'Y', rfl, by decide⟩ ⟨'K', rfl, by decide⟩ marked
      · simp [Firm]
    · rw [(Language.mem_one _).1 isPrimaryKey]
      simp [Firm]
  have firmEnd : Firm (column.type.toList ++ (notNull ++ primaryKey)) :=
    (firmPrimaryKey.append fun _ => firmNotNull).append fun _ => isColumn.hasOneSize.1.firm
  refine (firmEnd.append ?_).append ?_ <;> simp [isColumn.hasOneSize.1.ne_nil]

theorem firm_key {key : ForeignKey} (written : text ∈ writtenKey key) : Firm text := by
  rw [writtenKey, Language.mem_mul] at written
  rcases written with ⟨opening, _, _, behindOpening, rfl⟩
  rcases Language.mem_mul.1 behindOpening with ⟨owner, _, _, behindOwner, rfl⟩
  rcases Language.mem_mul.1 behindOwner with ⟨first, _, _, behindGap, rfl⟩
  rcases Language.mem_mul.1 behindGap with ⟨references, _, _, behindReferences, rfl⟩
  rcases Language.mem_mul.1 behindReferences with ⟨gap, _, _, targets, rfl⟩
  rcases Language.mem_mul.1 targets with ⟨target, _, _, isLast, rfl⟩
  rcases Language.mem_mul.1 isLast with ⟨before, _, _, behindBefore, rfl⟩
  rcases Language.mem_mul.1 behindBefore with ⟨_, rfl, _, inner, rfl⟩
  rcases Language.mem_mul.1 inner with ⟨space, _, _, named, rfl⟩
  rcases Language.mem_mul.1 named with ⟨name, _, _, last, rfl⟩
  rcases Language.mem_mul.1 last with ⟨after, _, _, rfl, rfl⟩
  have closed := firm_closing
    (opening ++ owner ++ first ++ references ++ gap ++ target ++ before ++
      '(' :: (space ++ name ++ after))
  simpa using closed

/-! ### Fragments -/

theorem ne_semicolon_of_isSpace (char : Char) (space : isSpace char = true) : char ≠ ';' := by
  rintro rfl
  cases space

theorem ne_semicolon_of_isWord (char : Char) (inWord : isWord char = true) : char ≠ ';' := by
  rintro rfl
  cases inWord

/-- A keyword whose letters are word characters takes no semicolon. -/
theorem takes_letters {name : String} (letters : ∀ char ∈ name.toList, isWord char = true) :
    Takes (· ≠ ';') (Scan.keyword name) :=
  takes_keyword fun _ spelled char mem =>
    ne_semicolon_of_isWord char (isWord_of_isSpelling letters spelled char mem)

theorem takes_blanks : Takes (· ≠ ';') spaces := takes_spaces ne_semicolon_of_isSpace

theorem takes_blank : Takes (· ≠ ';') someSpaces := takes_someSpaces ne_semicolon_of_isSpace

theorem takes_quotedName : Takes (· ≠ ';') quotedName := by
  have quote : Takes (· ≠ ';')
      (optionally (do let _ ← one fun char => char = backTick || char = '"')) := by
    refine ((takes_one ?_).bind fun _ => takes_pure ()).orElse (takes_pure ())
    rintro char isQuote rfl
    cases isQuote
  exact quote.bind fun _ => (takes_word ne_semicolon_of_isWord).bind fun _ =>
    quote.bind fun _ => takes_pure _

theorem takes_foreignKeyword : Takes (· ≠ ';') foreignKeyword :=
  ((takes_letters (by decide)).bind fun _ => takes_blank.bind fun _ =>
    takes_letters (by decide)).orElse
    (takes_letters (by decide))

/-- A name in parentheses ends with the closing one, and holds the opening one. -/
theorem inParentheses_suffix {name : String} (read : inParentheses text = some (name, rest)) :
    ')' :: rest <:+ text ∧ '(' ∈ text := by
  simp only [inParentheses, bind_eq_some, mark_eq_some, pure_eq_some] at read
  rcases read with
    ⟨_, _, readBefore, _, inner, rfl, _, _, readInner, _, _, readName, _, _, readAfter, _, _,
      rfl, _, rfl⟩
  have opening := (takes_blanks readBefore).suffix
  have named := (takes_blanks readInner).trans
    ((takes_quotedName readName).trans (takes_blanks readAfter))
  have closing := named.suffix.trans (List.suffix_cons '(' inner)
  exact ⟨closing.trans opening, opening.subset List.mem_cons_self⟩

/-- Behind a parenthesis that closes, a key opens another one. -/
theorem foreignKey_suffix {key : ForeignKey} (read : foreignKey text = some (key, rest)) :
    ∃ after, ')' :: after <:+ text ∧ '(' ∈ after := by
  simp only [foreignKey, bind_eq_some] at read
  rcases read with ⟨_, _, readOpening, _, after, readOwner, _, _, readBefore, _, _, readReferences,
    _, _, readGap, _, _, readTarget, _, _, readLast, _⟩
  have closing := (inParentheses_suffix readOwner).1
  have references := (takes_blanks readBefore).trans (takes_letters (by decide) readReferences)
  have target := references.trans ((takes_blank readGap).trans (takes_quotedName readTarget))
  exact ⟨after, closing.trans (takes_foreignKeyword readOpening).suffix,
    target.suffix.subset (inParentheses_suffix readLast).2⟩

/-- No key stands in a text that opens no parenthesis behind the first one that it closes. -/
theorem search_foreignKey_eq_none {before after : List Char} (noClosing : ')' ∉ before)
    (noOpening : '(' ∉ after) : search foreignKey (before ++ after) = none := by
  rw [search_eq_none]
  intro suffix isSuffix
  rw [Option.eq_none_iff_forall_ne_some]
  rintro ⟨key, rest⟩ read
  rcases foreignKey_suffix read with ⟨opened, closing, opening⟩
  rcases closing.trans isSuffix with ⟨front, same⟩
  -- The parenthesis that closes stands in the second part, so that the one that opens does too.
  rcases List.append_eq_append_iff.1 same with ⟨more, rfl, sameEnd⟩ | ⟨more, rfl, sameEnd⟩
  · cases more with
    | nil =>
      rw [List.nil_append] at sameEnd
      rw [← sameEnd] at noOpening
      exact noOpening (List.mem_cons_of_mem _ opening)
    | cons char more =>
      rw [List.cons_append, List.cons.injEq] at sameEnd
      rw [← sameEnd.1] at noClosing
      simp at noClosing
  · rw [sameEnd] at noOpening
    simp [opening] at noOpening

theorem search_foreignKey_column {enums : Enums} {column : Column}
    (isColumn : IsColumn enums column) (written : text ∈ writtenColumn column) :
    search foreignKey text = none := by
  rw [writtenColumn, Language.mem_mul] at written
  rcases written with ⟨name, isName, _, behindName, rfl⟩
  rcases Language.mem_mul.1 behindName with ⟨gap, isGap, _, behindGap, rfl⟩
  rcases Language.mem_mul.1 behindGap with ⟨_, rfl, markers, isMarkers, rfl⟩
  have freeName : ∀ char ∈ marks, char ∉ name := fun char isMark mem =>
    free_name isColumn.name name isName char mem isMark
  have freeGap : ∀ char ∈ marks, char ∉ gap :=
    fun char isMark mem => free_blank gap isGap char mem isMark
  have freeMarkers : ∀ char ∈ marks, char ∉ markers := fun char isMark mem =>
    free_markers column markers isMarkers char mem isMark
  have closing : ')' ∈ marks := by decide
  rcases isColumn.type with plain | ⟨base, size, isBase, isSize, same⟩
  · have freeType : ')' ∉ column.type.toList := fun mem => free_word plain _ rfl ')' mem closing
    have noClosing : ')' ∉ name ++ (gap ++ (column.type.toList ++ markers)) := by
      simp [freeName ')' closing, freeGap ')' closing, freeType, freeMarkers ')' closing]
    have noKey := search_foreignKey_eq_none noClosing (List.not_mem_nil : '(' ∉ [])
    rwa [List.append_nil] at noKey
  · have freeBase : ')' ∉ base := fun mem => free_word isBase _ rfl ')' mem closing
    have freeSize : ')' ∉ size := by
      intro mem
      cases isSize.2 ')' mem
    have noClosing : ')' ∉ name ++ gap ++ base ++ '(' :: size := by
      simp [freeName ')' closing, freeGap ')' closing, freeBase, freeSize]
    have noOpening : '(' ∉ ')' :: markers := by
      simp [freeMarkers '(' (by decide)]
    have noKey := search_foreignKey_eq_none noClosing noOpening
    rw [same]
    simpa using noKey

/-- A written column is read as it is, whatever white space stands around it. -/
theorem fragmentOf_column {enums : Enums} {column : Column} (isColumn : IsColumn enums column)
    {before after : List Char} (isBefore : before ∈ blanks) (written : text ∈ writtenColumn column)
    (isAfter : after ∈ blanks) :
    fragmentOf (trim (before ++ text ++ after)) = .ofColumn column.withoutEnum := by
  have head : Ends isSpace text := by
    rcases Language.mem_mul.1 written with ⟨name, isName, _, _, rfl⟩
    exact ends_writtenName isColumn.name isName
  rw [trim_append isBefore isAfter head (firm_column isColumn written), fragmentOf,
    search_foreignKey_column isColumn written]
  simp only [search_of_some (column_append isColumn written)]

/-- A written key is read as it is, whatever white space stands around it. -/
theorem fragmentOf_key {key : ForeignKey} (isClause : IsClause key) {before after : List Char}
    (isBefore : before ∈ blanks) (written : text ∈ writtenKey key) (isAfter : after ∈ blanks) :
    fragmentOf (trim (before ++ text ++ after)) = .ofKey key := by
  have head : Ends isSpace text := by
    rcases Language.mem_mul.1 written with ⟨opening, isOpening, _, _, rfl⟩
    rcases isOpening with long | short
    · rcases Language.mem_mul.1 long with ⟨foreign, isForeign, _, _, rfl⟩
      rw [List.append_assoc]
      exact ends_keyword ⟨'F', rfl, by decide⟩ isForeign
    · exact ends_keyword ⟨'F', rfl, by decide⟩ short
  have read := foreignKey_append isClause written []
  rw [List.append_nil] at read
  rw [trim_append isBefore isAfter head (firm_key written), fragmentOf]
  simp only [search_of_some read]

/-- A fragment that a statement can say. -/
def Fragment.IsWritable (enums : Enums) : Fragment → Prop
  | ofKey key => IsClause key
  | ofColumn column => IsColumn enums column
  | nothing => False

/-- A fragment whose enum is left open. -/
def Fragment.withoutEnum : Fragment → Fragment
  | ofColumn column => ofColumn column.withoutEnum
  | other => other

variable {enums : Enums} {fragment : Fragment}

theorem free_fragment (isWritable : fragment.IsWritable enums) : Free ends fragment.written := by
  cases fragment with
  | ofKey key => exact free_key isWritable
  | ofColumn column => exact free_column isWritable
  | nothing => cases isWritable

theorem fragmentOf_written (isWritable : fragment.IsWritable enums) {before after : List Char}
    (isBefore : before ∈ blanks) (written : text ∈ fragment.written) (isAfter : after ∈ blanks) :
    fragmentOf (trim (before ++ text ++ after)) = fragment.withoutEnum := by
  cases fragment with
  | ofKey key => exact fragmentOf_key isWritable isBefore written isAfter
  | ofColumn column => exact fragmentOf_column isWritable isBefore written isAfter
  | nothing => cases isWritable

/-- The items of a written table are read one by one. -/
theorem fragments_listed {items : List Fragment}
    (areWritable : ∀ item ∈ items, item.IsWritable enums)
    (written : text ∈ listed (items.map Fragment.written)) :
    fragments text = items.map Fragment.withoutEnum := by
  have comma : ',' ∈ ends := by decide
  apply map_splitOn_listed _ _ written
  · intro item mem text isItem isComma
    exact free_fragment (areWritable item mem) text isItem ',' isComma comma
  · intro item mem before isBefore text isItem after isAfter
    exact fragmentOf_written (areWritable item mem) isBefore isItem isAfter

/-! ### Bodies -/

theorem afterSemicolon?_blanks (isBlanks : text ∈ blanks) (rest : List Char) :
    afterSemicolon? (text ++ ';' :: rest) = some rest := by
  induction text with
  | nil => rfl
  | cons char more ih =>
    have space := isBlanks char List.mem_cons_self
    have noEnd : char ≠ ';' := by
      rintro rfl
      cases space
    have noClosing : char ≠ ')' := by
      rintro rfl
      cases space
    rw [List.cons_append, afterSemicolon?, if_neg noEnd, if_neg noClosing]
    exact ih fun other mem => isBlanks other (List.mem_cons_of_mem _ mem)

theorem afterSemicolon?_closing (noEnd : ';' ∉ text) (rest : List Char) :
    afterSemicolon? (text ++ ')' :: rest) = none := by
  induction text with
  | nil => rfl
  | cons char more ih =>
    rw [List.mem_cons, not_or] at noEnd
    rw [List.cons_append, afterSemicolon?, if_neg (Ne.symm noEnd.1)]
    split
    · rfl
    · exact ih noEnd.2

/-- A body without a semicolon is read up to its own closing parenthesis. -/
theorem body_append (noEnd : ';' ∉ text) {gap : List Char} (isGap : gap ∈ blanks)
    (rest : List Char) :
    body (text ++ ')' :: (gap ++ ';' :: rest)) = some (text, rest) := by
  induction text with
  | nil =>
    rw [List.nil_append, body, if_pos rfl, afterSemicolon?_blanks isGap]
  | cons char more ih =>
    rw [List.mem_cons, not_or] at noEnd
    -- A parenthesis of the text is followed by the closing one before any semicolon.
    have noClosing : (if char = ')' then afterSemicolon? (more ++ ')' :: (gap ++ ';' :: rest))
        else none) =
        none := by
      split
      · exact afterSemicolon?_closing noEnd.2 _
      · rfl
    rw [List.cons_append, body, noClosing, ih noEnd.2]
    rfl

end Sql

end Schemagram
