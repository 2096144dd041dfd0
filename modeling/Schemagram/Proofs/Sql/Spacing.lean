import Mathlib.Logic.Relation
import Schemagram.Proofs.Sql.RoundTrip

/-!
# White space between words

Statements of tables are read in the same way whatever white space stands where they have a blank.
The languages of what is written are closed under replacing a blank by white space, so that a text
and the text with other white space say the same tables.

A marker of two words is the exception: it has exactly one blank between them, and with more white
space there it is no marker.
-/

namespace Schemagram.Sql

open Text Writing
open Scan hiding keyword mark

variable {text rest : List Char}

/-! ### Statements with items in any order -/

/-- The statement of a table: its name, and its columns and keys in the order in which they are
written. -/
structure Block where
  name : String
  items : List Fragment

/-- An item whose names are words, and whose type is a word with one size at most. -/
def Fragment.IsRendered : Fragment → Prop
  | ofKey key =>
    IsWord key.column.toList ∧ IsWord key.referenceTable.toList ∧ IsWord key.referenceColumn.toList
  | ofColumn column => IsWord column.name.toList ∧ HasOneSize column.type.toList
  | nothing => False

namespace Block

/-- What stands between the parentheses. -/
def inside (block : Block) : Language Char :=
  match block.items with
  | [] => blanks
  | items => listed (items.map Fragment.written)

def written (block : Block) : Language Char := writtenStatement block.name block.inside

structure IsRendered (block : Block) : Prop where
  name : IsWord block.name.toList
  items : ∀ item ∈ block.items, item.IsRendered

/-- The table that a statement says. -/
def table (block : Block) : Table where
  name := block.name
  columns := block.items.filterMap Fragment.column?
  foreignKeys := block.items.filterMap Fragment.key?

end Block

/-! ### Items as they are read -/

/-- The item that is read where an item is written: its name may make a column a primary key, and
the kind of a key and the enum of a column are left open. -/
def Fragment.settled : Fragment → Fragment
  | ofKey key => ofKey { key with relation? := none }
  | ofColumn column => ofColumn { column with
      isPrimaryKey := column.isPrimaryKey || "pk_".toList.isPrefixOf (lower column.name.toList)
      isEnum? := some false
      enumValues? := none }
  | nothing => nothing

variable {item : Fragment} {block : Block} {blocks : List Block}

theorem Fragment.IsRendered.isWritable (isRendered : item.IsRendered) :
    item.settled.IsWritable [] := by
  cases item with
  | ofKey key => exact ⟨isRendered.1, isRendered.2.1, isRendered.2.2, rfl⟩
  | ofColumn column =>
    refine ⟨isRendered.1, hasOneSize_iff.1 isRendered.2, fun isKeyName => ?_, rfl, rfl⟩
    have named : "pk_".toList.isPrefixOf (lower column.name.toList) = true := isKeyName
    change (column.isPrimaryKey || "pk_".toList.isPrefixOf (lower column.name.toList)) = true
    rw [named, Bool.or_true]
  | nothing => exact isRendered

theorem within_writtenPrimaryKey (column : Column) (isEnum? : Option Bool)
    (enumValues? : Option (List String)) :
    Within (writtenPrimaryKey column) (writtenPrimaryKey { column with
      isPrimaryKey := column.isPrimaryKey || "pk_".toList.isPrefixOf (lower column.name.toList)
      isEnum?, enumValues? }) := by
  intro text written
  unfold writtenPrimaryKey at written ⊢
  cases isKey : column.isPrimaryKey with
  | true =>
    rw [isKey, if_pos rfl] at written
    exact written
  | false =>
    rw [isKey, if_neg (by simp)] at written
    cases (Language.mem_one _).1 written
    by_cases isKeyName : IsKeyName column.name
    · rw [IsKeyName] at isKeyName
      rw [isKeyName, Bool.false_or, if_pos rfl]
      exact .inr ⟨rfl, isKeyName⟩
    · rw [IsKeyName, Bool.not_eq_true] at isKeyName
      rw [isKeyName, Bool.or_false, if_neg (by simp)]
      exact Language.nil_mem_one

/-- A text of an item is a text of the item that is read. -/
theorem Fragment.within_settled (item : Fragment) : Within item.written item.settled.written := by
  cases item with
  | ofKey key => exact within_refl _
  | ofColumn column =>
    have marked := (within_refl (writtenNotNull column)).mul
      (within_writtenPrimaryKey column (some false) none)
    exact (within_refl _).mul ((within_refl _).mul ((within_refl _).mul marked))
  | nothing => exact within_refl _

namespace Block

/-- The statement as it is read. -/
def settled (block : Block) : Block := { block with items := block.items.map Fragment.settled }

theorem within_inside_settled (block : Block) : Within block.inside block.settled.inside := by
  rcases block with ⟨name, items⟩
  cases items with
  | nil => exact within_refl _
  | cons first more =>
    have within := within_listed Fragment.within_settled (first :: more)
    have settled : ((first :: more).map fun item => item.settled.written) =
        ((first :: more).map Fragment.settled).map Fragment.written := by
      rw [List.map_map]
      rfl
    rw [settled] at within
    exact within

theorem within_settled (block : Block) : Within block.written block.settled.written := by
  have body := block.within_inside_settled.mul (within_refl (mark ')' * (blanks * mark ';')))
  have opened := (within_refl blanks).mul ((within_refl (mark '(')).mul body)
  have named := (within_refl (writtenName block.name)).mul opened
  exact (within_refl _).mul ((within_refl _).mul ((within_refl _).mul ((within_refl _).mul named)))

theorem within_sequenced_settled (blocks : List Block) :
    Within (sequenced (blocks.map written)) (sequenced ((blocks.map settled).map written)) := by
  induction blocks with
  | nil => exact within_refl _
  | cons first more ih => exact (within_refl _).mul (first.within_settled.mul ih)

/-- A statement whose items are those that are read. -/
structure IsWritable (block : Block) : Prop where
  name : IsWord block.name.toList
  items : ∀ item ∈ block.items, item.IsWritable []

theorem IsRendered.isWritable (isRendered : block.IsRendered) : block.settled.IsWritable where
  name := isRendered.name
  items := by
    intro item mem
    rcases List.mem_map.1 mem with ⟨written, memWritten, rfl⟩
    exact (isRendered.items written memWritten).isWritable

end Block

/-! ### Statements are read -/

theorem fragments_blanks (isBlanks : text ∈ blanks) : fragments text = [.nothing] := by
  have trimmed := trim_append isBlanks nil_mem_blanks (ends_nil isSpace) (fun _ mem => nomatch mem)
  rw [List.append_nil, List.append_nil] at trimmed
  rw [fragments, splitOn_of_not_mem (comma_not_mem_blanks isBlanks), List.map_singleton, trimmed]
  rfl

theorem Fragment.column?_withoutEnum (item : Fragment) :
    item.withoutEnum.column? = item.column?.map Column.withoutEnum := by
  cases item <;> rfl

theorem Fragment.key?_withoutEnum (item : Fragment) : item.withoutEnum.key? = item.key? := by
  cases item <;> rfl

theorem tableOf_inside (isWritable : block.IsWritable) (written : text ∈ block.inside) :
    tableOf block.name text = block.table.withoutEnums := by
  rcases block with ⟨name, items⟩
  cases items with
  | nil =>
    rw [tableOf, fragments_blanks written]
    rfl
  | cons first more =>
    have read := fragments_listed isWritable.items written
    simp only [tableOf, read, List.filterMap_map, Function.comp_def, Fragment.column?_withoutEnum,
      Fragment.key?_withoutEnum, Block.table, Table.withoutEnums, List.map_filterMap]

theorem free_inside (isWritable : block.IsWritable) : Free stops block.inside := by
  rcases block with ⟨name, items⟩
  cases items with
  | nil => exact Writing.free_blanks (by decide)
  | cons first more =>
    apply free_listed (by decide) (by decide)
    intro language mem
    rcases List.mem_map.1 mem with ⟨item, memItem, rfl⟩
    exact (free_fragment (isWritable.items item memItem)).fewer (by decide)

theorem tables_sequenced (areWritable : ∀ block ∈ blocks, block.IsWritable)
    (written : text ∈ sequenced (blocks.map Block.written)) :
    tables text = blocks.map fun block => block.table.withoutEnums := by
  rw [← List.filterMap_eq_map]
  apply map_all_sequenced tableStatement_starts _ written
  intro block mem part isPart rest
  have isWritable := areWritable block mem
  have noEnd : ∀ body ∈ block.inside, ';' ∉ body :=
    fun _ isBody => (free_inside isWritable).not_mem isBody (by decide)
  rcases all_tableStatement_written isWritable.name noEnd isPart with ⟨body, isBody, found⟩
  rw [found, List.map_cons]
  change tableOf block.name body :: _ = _
  rw [tableOf_inside isWritable isBody]
  rfl

theorem enums_sequenced (areWritable : ∀ block ∈ blocks, block.IsWritable)
    (written : text ∈ sequenced (blocks.map Block.written)) : enums text = [] := by
  have declared : (all enumStatement text).map id = blocks.filterMap fun _ => none := by
    apply map_all_sequenced enumStatement_starts _ written
    intro block mem part isPart rest
    have quotesNothing : Free ['\''] block.inside :=
      (free_inside (areWritable block mem)).fewer (by decide)
    rw [all_enumStatement_written (areWritable block mem).name quotesNothing isPart]
    rfl
  rw [List.map_id, List.filterMap_none] at declared
  rw [enums, declared]
  rfl

/-! ### Blanks that are widened -/

/-- Ends in no white space, and not in front of the first item or of another one. -/
def Closes (text : List Char) : Prop := ∃ last ∈ text.getLast?, isSpace last = false ∧
    last ∉ ['(', ',']

/-- The two words of a marker. -/
def markerWords : List (String × String) := [("NOT", "NULL"), ("PRIMARY", "KEY")]

/-- A blank between two texts is the one of a marker behind a type or behind another marker. -/
def JoinsMarker (before after : List Char) : Prop :=
  ∃ words ∈ markerWords,
    (∃ front gap word, before = front ++ (gap ++ word) ∧ Closes front ∧ gap ∈ blank ∧
    word ∈ keyword words.1) ∧ ∃ word ∈ keyword words.2, word <+: after

/-- A blank between two texts is replaced by white space, where that is allowed. -/
inductive Widened (isAllowed : List Char → List Char → Prop) : List Char → List Char → Prop where
  | widen (before after gap : List Char) (allowed : isAllowed before after) (isGap : gap ∈ blank) :
      Widened isAllowed (before ++ ' ' :: after) (before ++ (gap ++ after))

/-- A language in which any blank but that of a marker may be replaced by white space. -/
def Spacious (language : Language Char) : Prop :=
  ∀ ⦃before after : List Char⦄, before ++ ' ' :: after ∈ language → ¬ JoinsMarker before after →
    ∀ gap ∈ blank, before ++ (gap ++ after) ∈ language

theorem Spacious.of_widened {language : Language Char} {other : List Char}
    (spacious : Spacious language)
    (widened : Relation.ReflTransGen (Widened fun before after => ¬ JoinsMarker before after)
      text other)
    (written : text ∈ language) : other ∈ language := by
  induction widened with
  | refl => exact written
  | tail _ step ih =>
    cases step with
    | widen before after gap allowed isGap => exact spacious ih allowed gap isGap

theorem Closes.append {front : List Char} (closes : Closes front) (before : List Char) :
    Closes (before ++ front) := by
  rcases closes with ⟨last, isLast, closing⟩
  refine ⟨last, ?_, closing⟩
  rw [List.getLast?_append, Option.mem_def.1 isLast]
  rfl

/-- The blank of a marker stays one in a longer text. -/
theorem JoinsMarker.append {before after : List Char} (joins : JoinsMarker before after)
    (front behind : List Char) :
    JoinsMarker (front ++ before) (after ++ behind) := by
  rcases joins with ⟨words, isMarker, ⟨start, gap, word, rfl, closes, isGap, isFirst⟩, second,
    isSecond, isPrefix⟩
  refine ⟨words, isMarker, ⟨front ++ start, gap, word, ?_, closes.append front, isGap, isFirst⟩,
    second, isSecond, ?_⟩
  · rw [List.append_assoc]
  · exact isPrefix.trans (List.prefix_append after behind)

/-- A blank in a text of two parts stands in one of them. -/
theorem mem_mul_of_blank {first second : Language Char} {before after : List Char}
    (written : before ++ ' ' :: after ∈ first * second) :
    (∃ inside behind, before ++ ' ' :: inside ∈ first ∧ behind ∈ second ∧
      after = inside ++ behind) ∨
      ∃ front inside, front ∈ first ∧ inside ++ ' ' :: after ∈ second ∧
      before = front ++ inside := by
  rcases Language.mem_mul.1 written with ⟨front, isFront, behind, isBehind, same⟩
  rcases List.append_eq_append_iff.1 same with ⟨inside, rfl, rfl⟩ | ⟨inside, rfl, split⟩
  · exact .inr ⟨front, inside, isFront, isBehind, rfl⟩
  · cases inside with
    | nil =>
      rw [List.nil_append] at split
      rw [List.append_nil] at isFront
      exact .inr ⟨before, [], isFront, split ▸ isBehind, (List.append_nil _).symm⟩
    | cons char inside =>
      rw [List.cons_append, List.cons.injEq] at split
      rcases split with ⟨rfl, rfl⟩
      exact .inl ⟨inside, behind, isFront, isBehind, rfl⟩

theorem spacious_of_free {language : Language Char} (free : Free [' '] language) :
    Spacious language := by
  intro before after written
  exact absurd List.mem_cons_self (free _ written ' ' (by simp))

theorem spacious_blanks : Spacious blanks := by
  intro before after written _ gap isGap char mem
  simp only [List.mem_append] at mem
  rcases mem with mem | mem | mem
  · exact written char (List.mem_append_left _ mem)
  · exact isGap.2 char mem
  · exact written char (List.mem_append_right _ (List.mem_cons_of_mem _ mem))

theorem spacious_blank : Spacious blank := by
  intro before after written joins gap isGap
  refine ⟨?_, spacious_blanks written.2 joins gap isGap⟩
  simp [isGap.1]

section Spacious

variable {first second : Language Char}

theorem Spacious.mul (isFirst : Spacious first) (isSecond : Spacious second) :
    Spacious (first * second) := by
  intro before after written joins gap isGap
  rcases mem_mul_of_blank written with
    ⟨inside, behind, isInside, isBehind, rfl⟩ | ⟨front, inside, isFront, isInside, rfl⟩
  · have widened := isFirst isInside (fun isMarker => joins (isMarker.append [] behind)) gap isGap
    have whole := Language.append_mem_mul widened isBehind
    simpa using whole
  · have notMarker : ¬ JoinsMarker inside after := by
      intro isMarker
      have longer := isMarker.append front []
      rw [List.append_nil] at longer
      exact joins longer
    have whole := Language.append_mem_mul isFront (isSecond isInside notMarker gap isGap)
    simpa using whole

theorem Spacious.add (isFirst : Spacious first) (isSecond : Spacious second) :
    Spacious (first + second) := by
  rintro before after (written | written) joins gap isGap
  · exact .inl (isFirst written joins gap isGap)
  · exact .inr (isSecond written joins gap isGap)

/-- The two words of a marker stand on the two sides of its blank. -/
theorem mem_keyword_of_blank {long : String} {words : String × String} {before after : List Char}
    (parts : long.toList = words.1.toList ++ ' ' :: words.2.toList) (isMarker : words ∈ markerWords)
    (written : before ++ ' ' :: after ∈ keyword long) :
    before ∈ keyword words.1 ∧ after ∈ keyword words.2 := by
  have noBlank : ∀ words ∈ markerWords, ' ' ∉ words.1.toList.map small ∧
      ' ' ∉ words.2.toList.map small := by
    decide
  rcases noBlank words isMarker with ⟨noFirst, noSecond⟩
  have same : before.map small ++ ' ' :: after.map small =
      words.1.toList.map small ++ ' ' :: words.2.toList.map small := by
    rw [mem_keyword, parts, List.map_append, List.map_append] at written
    exact written
  have noOther : ' ' ∉ before.map small := by
    have once := congrArg (List.count ' ') same
    simp only [List.count_append, List.count_cons_self, List.count_eq_zero.2 noFirst,
      List.count_eq_zero.2 noSecond] at once
    rw [← List.count_eq_zero]
    omega
  exact append_cons_inj noOther noFirst same

/-- The blank within a marker, behind a text that closes, is the one that is kept. -/
theorem Spacious.mul_marker (isFirst : Spacious first) (closes : ∀ text ∈ first, Closes text)
    {words : String × String} (isMarker : words ∈ markerWords) {long short : String}
    (parts : long.toList = words.1.toList ++ ' ' :: words.2.toList)
    (noBlank : Free [' '] (keyword short)) :
    Spacious (first * writtenMarker long short) := by
  intro before after written joins gap isGap
  rw [writtenMarker, ← mul_assoc] at written ⊢
  rcases mem_mul_of_blank written with
    ⟨inside, behind, isInside, isBehind, rfl⟩ | ⟨front, inside, isFront, isInside, rfl⟩
  · have notMarker : ¬ JoinsMarker before inside :=
      fun isMarker => joins (isMarker.append [] behind)
    have widened := (isFirst.mul spacious_blank) isInside notMarker gap isGap
    have whole := Language.append_mem_mul widened isBehind
    simpa using whole
  · rcases isInside with isLong | isShort
    · rcases Language.mem_mul.1 isFront with ⟨start, isStart, space, isSpace, rfl⟩
      rcases mem_keyword_of_blank parts isMarker isLong with ⟨isFirstWord, isSecondWord⟩
      refine absurd ⟨words, isMarker,
        ⟨start, space, inside, ?_, closes start isStart, isSpace, isFirstWord⟩, after,
        isSecondWord, List.prefix_refl after⟩ joins
      rw [List.append_assoc]
    · exact absurd List.mem_cons_self
        (fun mem => noBlank _ isShort ' ' (List.mem_append_right inside mem) (by simp))

end Spacious

/-! ### Statements with other white space -/

theorem spacious_keyword {name : String} (noBlank : ∀ letter ∈ name.toList, small letter ≠ ' ') :
    Spacious (keyword name) := by
  apply spacious_of_free
  apply free_keyword
  intro char isBlank letter mem same
  rw [List.mem_singleton.1 isBlank] at same
  exact noBlank letter mem same.symm

theorem spacious_mark {char : Char} (noBlank : char ≠ ' ') : Spacious (mark char) :=
  spacious_of_free (free_mark (by simpa using noBlank))

theorem spacious_name {name : String} (named : IsWord name.toList) :
    Spacious (writtenName name) := by
  have bare : Spacious (exactly name.toList) :=
    spacious_of_free (Writing.free_word (by decide) named)
  have backTicked : Spacious (mark backTick) := spacious_mark (by decide)
  have doubleQuoted : Spacious (mark '"') := spacious_mark (by decide)
  exact (bare.add (backTicked.mul (bare.mul backTicked))).add
    (doubleQuoted.mul (bare.mul doubleQuoted))

theorem spacious_inParentheses {name : String} (named : IsWord name.toList) :
    Spacious (writtenInParentheses name) := by
  have closing := spacious_blanks.mul (spacious_mark (by decide : ')' ≠ ' '))
  have inner := spacious_blanks.mul ((spacious_name named).mul closing)
  exact spacious_blanks.mul ((spacious_mark (by decide)).mul inner)

theorem spacious_key {key : ForeignKey} (isClause : IsClause key) : Spacious (writtenKey key) := by
  have foreign : Spacious (keyword "FOREIGN") := spacious_keyword (by decide)
  have opening := (foreign.mul
    (spacious_blank.mul (spacious_keyword (by decide : ∀ letter ∈ "KEY".toList,
    small letter ≠ ' ')))).add (spacious_keyword (by decide : ∀ letter ∈ "FK".toList,
    small letter ≠ ' '))
  have references : Spacious (keyword "REFERENCES") := spacious_keyword (by decide)
  have target := spacious_blank.mul
    ((spacious_name isClause.table).mul (spacious_inParentheses isClause.referenced))
  exact opening.mul ((spacious_inParentheses isClause.column).mul
    (spacious_blanks.mul (references.mul target)))

theorem closes_of_last {last : Char} (isLast : last ∈ text.getLast?) (inWord : isWord last = true) :
    Closes text := by
  refine ⟨last, isLast, not_isSpace_of_isWord inWord, ?_⟩
  intro isMark
  have all : ∀ mark ∈ ['(', ','], isWord mark = false := by decide
  rw [all last isMark] at inWord
  cases inWord

theorem closes_type {type : List Char} (hasOneSize : HasOneSize type) : Closes type := by
  rcases hasOneSize_iff.1 hasOneSize with plain | ⟨base, size, _, _, rfl⟩
  · exact closes_of_last (List.getLast_mem_getLast? plain.1) (plain.2 _ (List.getLast_mem plain.1))
  · have split : base ++ '(' :: (size ++ [')']) = (base ++ '(' :: size) ++ [')'] := by simp
    rw [split]
    exact ⟨')', List.getLast?_concat, by decide, by decide⟩

theorem closes_keyword {name : String}
    (last : ∃ letter ∈ name.toList.getLast?, isWord letter = true) (written : text ∈ keyword name) :
    Closes text := by
  rcases last with ⟨letter, isLast, inWord⟩
  have sameLast : text.getLast?.map small = some (small letter) := by
    rw [← List.getLast?_map, mem_keyword.1 written, List.getLast?_map, isLast]
    rfl
  rcases Option.map_eq_some_iff.1 sameLast with ⟨char, isChar, same⟩
  apply closes_of_last isChar
  rw [← isWord_small, same, isWord_small, inWord]

theorem closes_notNull (written : text ∈ writtenMarker "NOT NULL" "NN") : Closes text := by
  rcases Language.mem_mul.1 written with ⟨gap, _, word, isLong | isShort, rfl⟩
  · exact (closes_keyword ⟨'L', rfl, by decide⟩ isLong).append gap
  · exact (closes_keyword ⟨'N', rfl, by decide⟩ isShort).append gap

theorem spacious_column {column : Column} (isColumn : IsColumn [] column) :
    Spacious (writtenColumn column) := by
  have type : Spacious (exactly column.type.toList) :=
    spacious_of_free (isColumn.hasOneSize.free (by decide))
  have closes : ∀ text ∈ exactly column.type.toList, Closes text := by
    rintro _ rfl
    exact closes_type isColumn.hasOneSize
  have notNull : Spacious (exactly column.type.toList * writtenNotNull column) ∧
      ∀ text ∈ exactly column.type.toList * writtenNotNull column, Closes text := by
    unfold writtenNotNull
    split
    · rw [mul_one]
      exact ⟨type, closes⟩
    · refine ⟨type.mul_marker closes (by decide : ("NOT", "NULL") ∈ markerWords) (by decide)
        (free_keyword (by decide)), ?_⟩
      intro text written
      rcases Language.mem_mul.1 written with ⟨front, _, marker, isMarker, rfl⟩
      exact (closes_notNull isMarker).append front
  have implied : Spacious (impliedByName column) := by
    apply spacious_of_free
    rintro _ ⟨rfl, _⟩ char mem
    cases mem
  have marked : Spacious
      (exactly column.type.toList * writtenNotNull column * writtenPrimaryKey column) := by
    unfold writtenPrimaryKey
    split
    · rw [mul_add]
      exact (notNull.1.mul_marker notNull.2 (by decide : ("PRIMARY", "KEY") ∈ markerWords)
        (by decide)
        (free_keyword (by decide))).add (notNull.1.mul implied)
    · rw [mul_one]
      exact notNull.1
  rw [writtenColumn, ← mul_assoc (Writing.exactly _)]
  exact (spacious_name isColumn.name).mul (spacious_blank.mul marked)

theorem spacious_written (isWritable : item.IsWritable []) : Spacious item.written := by
  cases item with
  | ofKey key => exact spacious_key isWritable
  | ofColumn column => exact spacious_column isWritable
  | nothing => cases isWritable

theorem spacious_inside (isWritable : block.IsWritable) : Spacious block.inside := by
  rcases block with ⟨name, items⟩
  cases items with
  | nil => exact spacious_blanks
  | cons first more =>
    apply listed_of_mul Spacious.mul _ spacious_blanks (spacious_mark (by decide))
    · intro language mem
      rcases List.mem_map.1 mem with ⟨item, memItem, rfl⟩
      exact spacious_written (isWritable.items item memItem)
    · intro before after written
      cases written

theorem spacious_block (isWritable : block.IsWritable) : Spacious block.written := by
  have create : Spacious (keyword "CREATE") := spacious_keyword (by decide)
  have kind : Spacious (keyword "TABLE") := spacious_keyword (by decide)
  have opening : Spacious (mark '(') := spacious_mark (by decide)
  have closing : Spacious (mark ')') := spacious_mark (by decide)
  have last : Spacious (mark ';') := spacious_mark (by decide)
  have body := opening.mul
    ((spacious_inside isWritable).mul (closing.mul (spacious_blanks.mul last)))
  have named := (spacious_name isWritable.name).mul (spacious_blanks.mul body)
  exact create.mul (spacious_blank.mul (kind.mul (spacious_blank.mul named)))

theorem spacious_sequenced (areWritable : ∀ block ∈ blocks, block.IsWritable) :
    Spacious (sequenced (blocks.map Block.written)) := by
  induction blocks with
  | nil => exact spacious_blanks
  | cons first more ih =>
    have others := ih fun block mem => areWritable block (List.mem_cons_of_mem _ mem)
    exact spacious_blanks.mul ((spacious_block (areWritable first List.mem_cons_self)).mul others)

/-! ### Parsing -/

/-- Statements are read as the tables that they say, and declare no enum. -/
theorem parse_sequenced (areWritable : ∀ block ∈ blocks, block.IsWritable)
    (written : text ∈ sequenced (blocks.map Block.written)) : parse text =
      Logged.report (.tablesRead .sql blocks.length) >>= fun _ =>
        Table.settle [] (blocks.map fun block => block.table.withoutEnums) := by
  rw [parse, tables_sequenced areWritable written, enums_sequenced areWritable written,
    List.length_map]

/-- Replacing blanks by white space does not change what is read, except for the blank within a
marker. -/
theorem parse_widened {other : List Char} (rendered : ∀ block ∈ blocks, block.IsRendered)
    (written : text ∈ sequenced (blocks.map Block.written))
    (widened : Relation.ReflTransGen (Widened fun before after => ¬ JoinsMarker before after)
      text other) :
    parse other = parse text := by
  have areWritable : ∀ block ∈ blocks.map Block.settled, block.IsWritable := by
    intro block mem
    rcases List.mem_map.1 mem with ⟨first, memFirst, rfl⟩
    exact (rendered first memFirst).isWritable
  have settled := Block.within_sequenced_settled blocks text written
  have otherSettled := (spacious_sequenced areWritable).of_widened widened settled
  rw [parse_sequenced areWritable settled, parse_sequenced areWritable otherSettled]

theorem not_joinsMarker {before after : List Char}
    (starts : ∀ words ∈ markerWords, ¬ words.2.toList.map small <+: after.map small) :
    ¬ JoinsMarker before after := by
  rintro ⟨words, isMarker, _, word, isWord, isPrefix⟩
  apply starts words isMarker
  rw [← mem_keyword.1 isWord]
  exact isPrefix.map small

/-- A table of one column that is not nullable. -/
def narrowTable : Table := ⟨"t", [⟨"id", "INT", false, false, none, none⟩], []⟩

def narrowBlock : Block := ⟨"t", fragmentsOf narrowTable⟩

theorem isRendered_narrowBlock : ∀ block ∈ [narrowBlock], block.IsRendered := by
  intro block mem
  rw [List.mem_singleton.1 mem]
  refine ⟨⟨by decide, by decide⟩, ?_⟩
  intro item memItem
  rw [List.mem_singleton.1 memItem]
  exact ⟨⟨by decide, by decide⟩, hasOneSize_iff.2 (.inl ⟨by decide, by decide⟩)⟩

theorem mem_narrowBlock :
    "CREATE TABLE t(id INT NOT NULL);".toList ∈ sequenced ([narrowBlock].map Block.written) := by
  have isFilled : ∀ statement ∈ [Statement.ofTable narrowTable], statement.IsFilled := by
    simp [Statement.IsFilled, fragmentsOf, narrowTable]
  exact scriptText_mem isFilled

theorem parse_widened_lines :
    parse "CREATE TABLE t(id\r\n\tINT NOT NULL);".toList =
      parse "CREATE TABLE t(id INT NOT NULL);".toList := by
  have widened : Widened (fun before after => ¬ JoinsMarker before after)
      "CREATE TABLE t(id INT NOT NULL);".toList
      "CREATE TABLE t(id\r\n\tINT NOT NULL);".toList :=
    .widen "CREATE TABLE t(id".toList "INT NOT NULL);".toList "\r\n\t".toList
      (not_joinsMarker (by decide))
      ⟨by decide, by decide⟩
  exact parse_widened isRendered_narrowBlock mem_narrowBlock (.single widened)

/-- With two blanks in its marker, a column is nullable. -/
theorem parse_of_wideMarker :
    ¬ ∀ (blocks : List Block) (text other : List Char), (∀ block ∈ blocks, block.IsRendered) →
      text ∈ sequenced (blocks.map Block.written) → Widened (fun _ _ => True) text other →
        parse other = parse text := by
  intro same
  have widened : Widened (fun _ _ => True) "CREATE TABLE t(id INT NOT NULL);".toList
      "CREATE TABLE t(id INT NOT  NULL);".toList :=
    .widen "CREATE TABLE t(id INT NOT".toList "NULL);".toList "  ".toList trivial
      ⟨by decide, by decide⟩
  have results := congrArg Logged.result
    (same [narrowBlock] _ _ isRendered_narrowBlock mem_narrowBlock widened)
  have differ : (parse "CREATE TABLE t(id INT NOT  NULL);".toList).result ≠
      (parse "CREATE TABLE t(id INT NOT NULL);".toList).result := by decide +kernel
  exact differ results

end Schemagram.Sql
