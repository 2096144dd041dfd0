import Schemagram.Dialect.Dbml
import Schemagram.Dialect.Shorthand
import Schemagram.Proofs.Blocks.Printing
import Schemagram.Proofs.Keyed

/-!
# Enums in blocks, however they are written

Both block notations take a member out of its item in steps: white space is trimmed, quotes are
dropped, and in one of them a comma at the end goes, too, and then the white space before it.  The
steps do not get into each other's way since members hold no marks, and since dropping quotes leaves
white space as it is.  Empty items leave nothing.

A text may declare an enum several times.  It keeps its first place and has its last members.
-/

namespace Schemagram.Blocks

open Text Writing
open Scan hiding keyword mark
open Language (append_mem_mul)

variable {text : List Char} {item : String} {items : List String}

/-- The marks of enums, which their members do without. -/
def enumMarks : List Char := ['\'', '"', ',', '\x7b', '\x7d', '\n']

/-! ### Forms -/

/-- An item stands bare or in quotes of either kind.  Quotes around nothing are an empty item,
too. -/
def writtenItem (item : String) : Language Char :=
  exactly item.toList +
    (exactly ('\'' :: (item.toList ++ ['\''])) + exactly ('"' :: (item.toList ++ ['"'])))

/-- An item on a line of its own; a comma may stand behind it. -/
def writtenLine (item : String) : Language Char :=
  inLine (blanks * (writtenItem item * (blanks * (1 + mark ',' * blanks))))

/-- Lines with the line ends between them. -/
def lined : List (Language Char) → Language Char
  | [] => 0
  | [line] => line
  | line :: more => line * (mark '\n' * lined more)

/-- Members between commas, and empty items in any places. -/
def betweenCommas (members : List String) : Language Char :=
  {text | ∃ items : List String, items.filter (· ≠ "") = members ∧
    text ∈ listed (items.map writtenItem)}

/-- Members on lines, and blank lines in any places. -/
def onOwnLines (members : List String) : Language Char :=
  {text | ∃ items : List String, items.filter (· ≠ "") = members ∧
    text ∈ lined (items.map writtenLine)}

/-- What may stand around blocks. -/
def withoutBraces : Language Char := {text | '\x7b' ∉ text}

/-- Blocks of enums one after the other. -/
def declared (form : List String → Language Char) : List (String × List String) → Language Char
  | [] => withoutBraces
  | (name, members) :: more =>
    withoutBraces * (writtenBlock (keyword "enum") name (form members) * declared form more)

/-! ### Items -/

/-- A member, or an empty item. -/
def IsItem (item : String) : Prop := item = "" ∨ IsMember enumMarks item

def withoutQuotes (text : List Char) : List Char :=
  text.filter fun char => char ≠ '\'' && char ≠ '"'

theorem IsItem.trim (isItem : IsItem item) : trim item.toList = item.toList := by
  rcases isItem with rfl | isMember
  · rfl
  · exact isMember.2.1

theorem IsItem.not_mem (isItem : IsItem item) {char : Char} (isMark : char ∈ enumMarks) :
    char ∉ item.toList := by
  rcases isItem with rfl | isMember
  · simp
  · exact fun mem => isMember.2.2 char mem isMark

theorem isItem_of_filter {members : List String}
    (areMembers : ∀ member ∈ members, IsMember enumMarks member)
    (split : items.filter (· ≠ "") = members) : ∀ item ∈ items, IsItem item := by
  intro item mem
  by_cases isEmpty : item = ""
  · exact .inl isEmpty
  · right
    apply areMembers
    rw [← split]
    simp [mem, isEmpty]

theorem withoutQuotes_append (first second : List Char) :
    withoutQuotes (first ++ second) = withoutQuotes first ++ withoutQuotes second :=
  List.filter_append first second

theorem withoutQuotes_eq_self (noSingle : '\'' ∉ text) (noDouble : '"' ∉ text) :
    withoutQuotes text = text := by
  rw [withoutQuotes, List.filter_eq_self]
  intro char mem
  have notSingle : char ≠ '\'' := fun same => noSingle (same ▸ mem)
  have notDouble : char ≠ '"' := fun same => noDouble (same ▸ mem)
  simp [notSingle, notDouble]

theorem withoutQuotes_blanks (isBlank : text ∈ blanks) : withoutQuotes text = text :=
  withoutQuotes_eq_self (not_mem_of_run isBlank (by decide)) (not_mem_of_run isBlank (by decide))

theorem withoutQuotes_written (isItem : IsItem item) (written : text ∈ writtenItem item) :
    withoutQuotes text = item.toList := by
  have bare : withoutQuotes item.toList = item.toList :=
    withoutQuotes_eq_self (isItem.not_mem (by decide)) (isItem.not_mem (by decide))
  rcases written with rfl | rfl | rfl
  · exact bare
  · simpa [withoutQuotes] using bare
  · simpa [withoutQuotes] using bare

theorem trim_quoted {quote : Char} (noSpace : isSpace quote = false) (text : List Char) :
    trim (quote :: (text ++ [quote])) = quote :: (text ++ [quote]) := by
  apply trim_eq_self
  · intro char isFirst
    cases isFirst
    exact noSpace
  · intro char isLast
    rw [← List.cons_append, List.getLast?_concat] at isLast
    cases isLast
    exact noSpace

/-- Quotes are no white space, and neither does a member begin or end with any. -/
theorem trim_written (isItem : IsItem item) (written : text ∈ writtenItem item) :
    trim text = text := by
  rcases written with rfl | rfl | rfl
  · exact isItem.trim
  · exact trim_quoted (by decide) item.toList
  · exact trim_quoted (by decide) item.toList

theorem free_writtenItem {chars : List Char} (areMarks : ∀ char ∈ chars, char ∈ enumMarks)
    (noQuotes : ∀ char ∈ chars, char ≠ '\'' ∧ char ≠ '"') (isItem : IsItem item) :
    Free chars (writtenItem item) := by
  have bare : ∀ char ∈ item.toList, char ∉ chars := fun char mem isChar =>
    isItem.not_mem (areMarks char isChar) mem
  have single : '\'' ∉ chars := fun mem => (noQuotes _ mem).1 rfl
  have double : '"' ∉ chars := fun mem => (noQuotes _ mem).2 rfl
  rintro text (rfl | rfl | rfl)
  · exact bare
  · intro char mem
    simp only [List.mem_cons, List.mem_append, List.not_mem_nil, or_false] at mem
    rcases mem with rfl | mem | rfl
    · exact single
    · exact bare char mem
    · exact single
  · intro char mem
    simp only [List.mem_cons, List.mem_append, List.not_mem_nil, or_false] at mem
    rcases mem with rfl | mem | rfl
    · exact double
    · exact bare char mem
    · exact double

/-- Items that are left when the empty ones are dropped. -/
theorem map_ofList_items (items : List String) :
    ((items.map String.toList).filter (!·.isEmpty)).map String.ofList = items.filter (· ≠ "") := by
  induction items with
  | nil => rfl
  | cons item more ih =>
    by_cases isEmpty : item = ""
    · simpa [isEmpty] using ih
    · simpa [isEmpty] using ih

/-! ### Members between commas -/

theorem membersOf_betweenCommas {members : List String}
    (areMembers : ∀ member ∈ members, IsMember enumMarks member)
    (written : text ∈ betweenCommas members) :
    Shorthand.membersOf text = members := by
  rcases written with ⟨items, split, isListed⟩
  have areItems := isItem_of_filter areMembers split
  have pieces : (splitOn ',' text).map (fun piece => withoutQuotes (trim piece)) =
      items.map String.toList := by
    apply map_splitOn_listed _ _ isListed
    · intro item mem text isText
      have free : Free [','] (writtenItem item) :=
        free_writtenItem (by decide) (by decide) (areItems item mem)
      exact free.not_mem isText List.mem_cons_self
    · intro item mem before isBefore text isText after isAfter
      rw [List.append_assoc, trim_spaces_append isBefore, trim_append_spaces isAfter,
        trim_written (areItems item mem) isText, withoutQuotes_written (areItems item mem) isText]
  calc Shorthand.membersOf text
      = (((splitOn ',' text).map fun piece => withoutQuotes (trim piece)).filter (!·.isEmpty)).map
        String.ofList := rfl
    _ = items.filter (· ≠ "") := by rw [pieces, map_ofList_items]
    _ = members := split

/-! ### Members on lines -/

/-- White space that is trimmed before quotes are dropped may as well be trimmed afterwards. -/
theorem trim_withoutQuotes_dropWhile (text : List Char) :
    trim (withoutQuotes (text.dropWhile isSpace)) = trim (withoutQuotes text) := by
  have isBlank : text.takeWhile isSpace ∈ blanks := List.all_eq_true.1 List.all_takeWhile
  conv => rhs; rw [← List.takeWhile_append_dropWhile (p := isSpace) (l := text)]
  rw [withoutQuotes_append, withoutQuotes_blanks isBlank, trim_spaces_append isBlank]

theorem trim_concat {last : Char} (noSpace : isSpace last = false) (front : List Char) :
    trim (front ++ [last]) = front.dropWhile isSpace ++ [last] := by
  have dropped : (front ++ [last]).dropWhile isSpace = front.dropWhile isSpace ++ [last] := by
    rw [List.dropWhile_append]
    split
    · rename_i isEmpty
      simp [List.isEmpty_iff.1 isEmpty, noSpace]
    · rfl
  rw [trim, dropped, dropEndWhile_of_getLast? (by simp [noSpace])]

def withoutComma (text : List Char) : List Char :=
  if text.getLast? = some ',' then text.dropLast else text

theorem withoutComma_concat (text : List Char) : withoutComma (text ++ [',']) = text := by
  rw [withoutComma, if_pos List.getLast?_concat, List.dropLast_concat]

theorem withoutComma_eq_self (noComma : ',' ∉ text) : withoutComma text = text := by
  apply if_neg
  intro isComma
  exact noComma (List.mem_of_getLast? isComma)

/-- The item of a line. -/
theorem memberOf_line (isItem : IsItem item) (written : text ∈ writtenLine item) :
    Dbml.memberOf text = item.toList := by
  rcases Language.mem_mul.1 written.1 with ⟨before, isBefore, _, behindBefore, rfl⟩
  rcases Language.mem_mul.1 behindBefore with ⟨core, isCore, _, behindCore, rfl⟩
  rcases Language.mem_mul.1 behindCore with ⟨between, isBetween, last, isLast, rfl⟩
  have bare := withoutQuotes_written isItem isCore
  change trim (withoutComma (withoutQuotes (trim (before ++ (core ++ (between ++ last)))))) =
    item.toList
  rw [trim_spaces_append isBefore]
  rcases isLast with noComma | hasComma
  · rw [(Language.mem_one last).1 noComma, List.append_nil, trim_append_spaces isBetween,
      trim_written isItem isCore, bare, withoutComma_eq_self (isItem.not_mem (by decide)),
      isItem.trim]
  · rcases Language.mem_mul.1 hasComma with ⟨_, rfl, after, isAfter, rfl⟩
    have isComma : withoutQuotes [','] = [','] := rfl
    rw [← List.append_assoc, ← List.append_assoc, trim_append_spaces isAfter,
      trim_concat (by decide), withoutQuotes_append, isComma, withoutComma_concat,
      trim_withoutQuotes_dropWhile, withoutQuotes_append, bare, withoutQuotes_blanks isBetween,
      trim_append_spaces isBetween, isItem.trim]

theorem map_splitOn_lined {Item Out : Type} {language : Item → Language Char}
    {read : List Char → Out} {result : Item → Out} {items : List Item}
    (free : ∀ item ∈ items, ∀ line ∈ language item, '\n' ∉ line)
    (reads : ∀ item ∈ items, ∀ line ∈ language item, read line = result item)
    (written : text ∈ lined (items.map language)) :
    (splitOn '\n' text).map read = items.map result := by
  induction items generalizing text with
  | nil => cases written
  | cons first more ih =>
    rw [List.forall_mem_cons] at free reads
    cases more with
    | nil => simp [splitOn_of_not_mem (free.1 text written), reads.1 text written]
    | cons second more =>
      rcases Language.mem_mul.1 written with ⟨line, isLine, _, behindLine, rfl⟩
      rcases Language.mem_mul.1 behindLine with ⟨_, rfl, others, isOthers, rfl⟩
      rw [List.singleton_append, splitOn_append_cons (free.1 line isLine), List.map_cons,
        reads.1 line isLine, ih free.2 reads.2 isOthers]
      rfl

theorem membersOf_onOwnLines {members : List String}
    (areMembers : ∀ member ∈ members, IsMember enumMarks member)
    (written : text ∈ onOwnLines members) :
    Dbml.membersOf text = members := by
  rcases written with ⟨items, split, isLined⟩
  have areItems := isItem_of_filter areMembers split
  have lines : (splitOn '\n' text).map Dbml.memberOf = items.map String.toList := by
    apply map_splitOn_lined _ _ isLined
    · exact fun item _ line isLine => isLine.2
    · exact fun item mem line isLine => memberOf_line (areItems item mem) isLine
  rw [Dbml.membersOf, lines, map_ofList_items, split]

/-! ### No braces inside -/

theorem free_lined {chars : List Char} (noLineEnd : '\n' ∉ chars) {lines : List (Language Char)}
    (free : ∀ line ∈ lines, Free chars line) : Free chars (lined lines) := by
  induction lines with
  | nil => exact fun _ written => nomatch written
  | cons first more ih =>
    rw [List.forall_mem_cons] at free
    cases more with
    | nil => exact free.1
    | cons second more => exact free.1.mul ((free_mark noLineEnd).mul (ih free.2))

theorem free_writtenLine {chars : List Char} (areMarks : ∀ char ∈ chars, char ∈ enumMarks)
    (noQuotes : ∀ char ∈ chars, char ≠ '\'' ∧ char ≠ '"') (noComma : ',' ∉ chars)
    (noSpace : ∀ char ∈ chars, isSpace char = false) (isItem : IsItem item) :
    Free chars (writtenLine item) := by
  have isBlank : Free chars blanks := free_blanks noSpace
  have comma : Free chars (1 + mark ',' * blanks) := free_one.add ((free_mark noComma).mul isBlank)
  have free := isBlank.mul ((free_writtenItem areMarks noQuotes isItem).mul (isBlank.mul comma))
  exact fun text written => free text written.1

variable {members : List String}

theorem brace_not_mem_betweenCommas (areMembers : ∀ member ∈ members, IsMember enumMarks member)
    (written : text ∈ betweenCommas members) : '\x7d' ∉ text := by
  rcases written with ⟨items, split, isListed⟩
  have free : Free ['\x7d'] (listed (items.map writtenItem)) := by
    apply free_listed (by decide) (by decide)
    intro language mem
    rcases List.mem_map.1 mem with ⟨item, memItem, rfl⟩
    exact free_writtenItem (by decide) (by decide) (isItem_of_filter areMembers split item memItem)
  exact free.not_mem isListed List.mem_cons_self

theorem brace_not_mem_onOwnLines (areMembers : ∀ member ∈ members, IsMember enumMarks member)
    (written : text ∈ onOwnLines members) : '\x7d' ∉ text := by
  rcases written with ⟨items, split, isLined⟩
  have free : Free ['\x7d'] (lined (items.map writtenLine)) := by
    apply free_lined (by decide)
    intro language mem
    rcases List.mem_map.1 mem with ⟨item, memItem, rfl⟩
    exact free_writtenLine (by decide) (by decide) (by decide) (by decide)
      (isItem_of_filter areMembers split item memItem)
  exact free.not_mem isLined List.mem_cons_self

/-! ### Blocks -/

/-- Blocks are found in their order, each with its members. -/
theorem map_all_declared {word : String} (isEnum : word ∈ ["Enum", "enum"])
    {form : List String → Language Char} {membersOf : List Char → List String}
    {declarations : List (String × List String)}
    (named : ∀ declaration ∈ declarations, IsWord declaration.1.toList)
    (noEnd : ∀ declaration ∈ declarations, ∀ inside ∈ form declaration.2, '\x7d' ∉ inside)
    (reads : ∀ declaration ∈ declarations, ∀ inside ∈ form declaration.2,
      membersOf inside = declaration.2)
    (written : text ∈ declared form declarations) :
    (all (block (Scan.keyword word)) text).map (fun (name, inside) => (name, membersOf inside)) =
      declarations := by
  have isKeyword : keyword "enum" = keyword word ∧ IsWord word.toList := by
    rcases List.mem_pair.1 isEnum with rfl | rfl
    · exact ⟨rfl, by decide⟩
    · exact ⟨rfl, by decide⟩
  have spelled : ∀ opening ∈ keyword "enum", IsSpelling word opening := by
    rw [isKeyword.1]
    exact fun opening => isSpelling_of_keyword
  induction declarations generalizing text with
  | nil => exact congrArg (List.map _) (all_block_eq_nil written)
  | cons declaration more ih =>
    rw [List.forall_mem_cons] at named noEnd reads
    rcases Language.mem_mul.1 written with ⟨front, noBrace, _, behindFront, rfl⟩
    rcases Language.mem_mul.1 behindFront with ⟨block, isBlock, rest, isRest, rfl⟩
    rcases all_block_of_written (fun _ => isWord_of_spelled isKeyword.2) spelled named.1 noEnd.1
      isBlock with
      ⟨inside, isInside, found⟩
    have foundMore := ih named.2 noEnd.2 reads.2 isRest
    have isFirst : all (Scan.block (Scan.keyword word)) (front ++ (block ++ rest)) =
        (declaration.1, inside) :: all (Scan.block (Scan.keyword word)) rest :=
      found front rest noBrace
    have isMembers := reads.1 inside isInside
    rw [isFirst, List.map_cons, foundMore]
    exact congrArg (fun members => (declaration.1, members) :: more) isMembers

/-! ### Texts of the forms -/

theorem declared_cons {form : List String → Language Char} {name : String} {members : List String}
    {more : List (String × List String)} {front opening inside rest : List Char}
    (isFront : front ∈ withoutBraces) (isOpening : opening ∈ keyword "enum")
    (isInside : inside ∈ form members) (isRest : rest ∈ declared form more) :
    front ++ (blockText opening name inside ++ rest) ∈ declared form ((name, members) :: more) :=
  append_mem_mul isFront (append_mem_mul (blockText_mem name isOpening isInside) isRest)

theorem listed_cons {item second : Language Char} {more : List (Language Char)}
    {before piece after rest : List Char} (isBefore : before ∈ blanks) (isPiece : piece ∈ item)
    (isAfter : after ∈ blanks) (isRest : rest ∈ listed (second :: more)) :
    before ++ (piece ++ (after ++ ([','] ++ rest))) ∈ listed (item :: second :: more) :=
  append_mem_mul isBefore (append_mem_mul isPiece (append_mem_mul isAfter
    (append_mem_mul (singleton_mem_mark ',') isRest)))

theorem listed_last {item : Language Char} {before piece after : List Char}
    (isBefore : before ∈ blanks) (isPiece : piece ∈ item) (isAfter : after ∈ blanks) :
    before ++ (piece ++ after) ∈ listed [item] :=
  append_mem_mul isBefore (append_mem_mul isPiece isAfter)

theorem writtenLine_mem {item : String} {before piece after last : List Char}
    (isBefore : before ∈ blanks) (isPiece : piece ∈ writtenItem item) (isAfter : after ∈ blanks)
    (isLast : last ∈ 1 + mark ',' * blanks) (noEnd : '\n' ∉ before ++ (piece ++ (after ++ last))) :
    before ++ (piece ++ (after ++ last)) ∈ writtenLine item :=
  ⟨append_mem_mul isBefore (append_mem_mul isPiece (append_mem_mul isAfter isLast)), noEnd⟩

theorem lined_cons {first second : Language Char} {more : List (Language Char)}
    {line rest : List Char} (isLine : line ∈ first) (isRest : rest ∈ lined (second :: more)) :
    line ++ (['\n'] ++ rest) ∈ lined (first :: second :: more) :=
  append_mem_mul isLine (append_mem_mul (singleton_mem_mark '\n') isRest)

/-! ### Enums of a text -/

/-- However the blocks of a text are written, their enums are those that are declared. -/
theorem enums_of_declared {declarations : List (String × List String)}
    (named : ∀ declaration ∈ declarations, IsWord declaration.1.toList)
    (areMembers : ∀ declaration ∈ declarations, ∀ member ∈ declaration.2,
      IsMember enumMarks member) :
    (∀ text ∈ declared betweenCommas declarations,
      Shorthand.enums text = Keyed.latest declarations) ∧
    (∀ text ∈ declared onOwnLines declarations, Dbml.enums text = Keyed.latest declarations) := by
  constructor
  · intro text written
    have found : (all (block (Scan.keyword "enum")) text).map
        (fun (name, inside) => (name, Shorthand.membersOf inside)) = declarations := by
      apply map_all_declared (by decide) named _ _ written
      · intro declaration mem inside isInside
        exact brace_not_mem_betweenCommas (areMembers declaration mem) isInside
      · intro declaration mem inside isInside
        exact membersOf_betweenCommas (areMembers declaration mem) isInside
    rw [Shorthand.enums, found]
    exact Keyed.ofPairs_eq_latest declarations
  · intro text written
    have found : (all (block (Scan.keyword "Enum")) text).map
        (fun (name, inside) => (name, Dbml.membersOf inside)) = declarations := by
      apply map_all_declared (by decide) named _ _ written
      · intro declaration mem inside isInside
        exact brace_not_mem_onOwnLines (areMembers declaration mem) isInside
      · intro declaration mem inside isInside
        exact membersOf_onOwnLines (areMembers declaration mem) isInside
    rw [Dbml.enums, found]
    exact Keyed.ofPairs_eq_latest declarations

/-- Members in quotes of both kinds, an empty item, a comma at the end, and an enum that is declared
again. -/
theorem enums_of_declared_again :
    let again := [("status", ["new", "in use"]), ("kind", ["a"]), ("status", ["gone"])]
    let commas := String.toList
      "enum status \x7b'new' ,,\"in use\"\x7d; ENUM kind \x7b a\x7d; enum status \x7bgone,\x7d"
    let lines := String.toList
      "enum status \x7b'new' ,\n\n\"in use\"\x7d; ENUM kind \x7b a\x7d; enum status \x7bgone,\x7d"
    (∀ declaration ∈ again, IsWord declaration.1.toList) ∧
    (∀ declaration ∈ again, ∀ member ∈ declaration.2, IsMember enumMarks member) ∧
    commas ∈ declared betweenCommas again ∧
    Shorthand.enums commas = [("status", ["gone"]), ("kind", ["a"])] ∧
    lines ∈ declared onOwnLines again ∧
    Dbml.enums lines = [("status", ["gone"]), ("kind", ["a"])] := by
  intro again commas lines
  have named : ∀ declaration ∈ again, IsWord declaration.1.toList := by decide
  have areMembers : ∀ declaration ∈ again, ∀ member ∈ declaration.2, IsMember enumMarks member := by
    unfold IsMember
    decide
  have bare (item : String) : item.toList ∈ writtenItem item := .inl (toList_mem_exactly item)
  have single (item : String) : '\'' :: (item.toList ++ ['\'']) ∈ writtenItem item :=
    .inr (.inl rfl)
  have double (item : String) : '"' :: (item.toList ++ ['"']) ∈ writtenItem item := .inr (.inr rfl)
  have isEnum : "enum".toList ∈ keyword "enum" := toList_mem_keyword "enum"
  have isCapital : "ENUM".toList ∈ keyword "enum" := mem_keyword.2 (by decide)
  have gap : [';', ' '] ∈ withoutBraces := (by decide : '\x7b' ∉ [';', ' '])
  have whole {form : List String → Language Char} {first second third : List Char}
      (isFirst : first ∈ form ["new", "in use"]) (isSecond : second ∈ form ["a"])
      (isThird : third ∈ form ["gone"]) :
      [] ++ (blockText "enum".toList "status" first ++
        ([';', ' '] ++ (blockText "ENUM".toList "kind" second ++
        ([';', ' '] ++ (blockText "enum".toList "status" third ++ []))))) ∈ declared form again :=
    declared_cons List.not_mem_nil isEnum isFirst (declared_cons gap isCapital isSecond
      (declared_cons gap isEnum isThird List.not_mem_nil))
  have isCommas : commas ∈ declared betweenCommas again := by
    have last := listed_last nil_mem_blanks (double "in use") nil_mem_blanks
    have status := listed_cons nil_mem_blanks (single "new") space_mem_blanks
      (listed_cons nil_mem_blanks (bare "") nil_mem_blanks last)
    have kind := listed_last space_mem_blanks (bare "a") nil_mem_blanks
    have gone := listed_cons nil_mem_blanks (bare "gone") nil_mem_blanks
      (listed_last nil_mem_blanks (bare "") nil_mem_blanks)
    have isStatus : _ ∈ betweenCommas ["new", "in use"] :=
      ⟨["new", "", "in use"], by decide, status⟩
    have isKind : _ ∈ betweenCommas ["a"] := ⟨["a"], by decide, kind⟩
    have isGone : _ ∈ betweenCommas ["gone"] := ⟨["gone", ""], by decide, gone⟩
    refine Set.mem_of_eq_of_mem ?_ (whole isStatus isKind isGone)
    decide
  have isLines : lines ∈ declared onOwnLines again := by
    have noComma : [] ∈ 1 + mark ',' * blanks := .inl Language.nil_mem_one
    have comma : [','] ∈ 1 + mark ',' * blanks := .inr (mem_mul_blanks (singleton_mem_mark ','))
    have last : _ ∈ lined [writtenLine "in use"] :=
      writtenLine_mem nil_mem_blanks (double "in use") nil_mem_blanks noComma (by decide)
    have blank := writtenLine_mem nil_mem_blanks (bare "") nil_mem_blanks noComma (by decide)
    have first := writtenLine_mem nil_mem_blanks (single "new") space_mem_blanks comma (by decide)
    have kind := writtenLine_mem space_mem_blanks (bare "a") nil_mem_blanks noComma (by decide)
    have gone := writtenLine_mem nil_mem_blanks (bare "gone") nil_mem_blanks comma (by decide)
    have status := lined_cons first (lined_cons blank last)
    have isStatus : _ ∈ onOwnLines ["new", "in use"] := ⟨["new", "", "in use"], by decide, status⟩
    have isKind : _ ∈ onOwnLines ["a"] := ⟨["a"], by decide, kind⟩
    have isGone : _ ∈ onOwnLines ["gone"] := ⟨["gone"], by decide, gone⟩
    refine Set.mem_of_eq_of_mem ?_ (whole isStatus isKind isGone)
    decide
  have isLatest : Keyed.latest again = [("status", ["gone"]), ("kind", ["a"])] := by decide
  have read := enums_of_declared named areMembers
  refine ⟨named, areMembers, isCommas, ?_, isLines, ?_⟩
  · rw [read.1 commas isCommas, isLatest]
  · rw [read.2 lines isLines, isLatest]

end Schemagram.Blocks
