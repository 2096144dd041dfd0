import Schemagram.Strict.Phrase

/-!
# What the rules of the strict grammar read

Every rule reads exactly the phrases of its nonterminal.  The lemmas `…_eq_ok_iff` say both
directions at once: a rule succeeds when the tokens begin with the tokens of a phrase, and it
returns what the phrase declares together with the tokens behind it.

A phrase with an optional end must not be followed by a token that would begin that end.  These
conditions are part of the lemmas here; inside a whole declaration they hold by themselves, because
a word is no punctuation mark.
-/

namespace Schemagram.Strict

/-! ### What a phrase declares -/

def PathPhrase.path (phrase : PathPhrase) : Path := ⟨phrase.table.1.text, phrase.column.1.text⟩

def ArrowPhrase.arrow : ArrowPhrase → Arrow
  | .left _ => .left
  | .right _ => .right

def SizesPhrase.sizes (phrase : SizesPhrase) : List String :=
  phrase.first.1.text :: phrase.second?.elim [] fun second => [second.2.1.text]

def TypePhrase.type (phrase : TypePhrase) : ColumnType :=
  ⟨phrase.base.1.text, phrase.sizes?.elim [] SizesPhrase.sizes⟩

def PropertyPhrase.property : PropertyPhrase → Property
  | .primaryKey _ => .primaryKey
  | .notNull _ => .notNull
  | .note _ _ text => .note text.1.unquoted
  | .reference _ _ arrow other => .reference arrow.arrow other.path

def ColumnPhrase.declaration (phrase : ColumnPhrase) : ColumnDeclaration :=
  ⟨phrase.name.1.text, phrase.type.type, phrase.properties.map PropertyPhrase.property⟩

def EntryPhrase.entry : EntryPhrase → TableEntry
  | .note phrase => .note phrase.text.1.unquoted
  | .column phrase => .column phrase.declaration

def DeclarationPhrase.declaration : DeclarationPhrase → Declaration
  | .table phrase =>
    .table phrase.name.1.text (phrase.alias?.map fun second => second.2.1.text)
      (phrase.entries.map EntryPhrase.entry)
  | .enum phrase => .enum phrase.name.1.text (phrase.members.map MemberPhrase.text)
  | .reference phrase =>
    .reference (phrase.name?.map fun name => name.1.text) phrase.left.path phrase.arrow.arrow
      phrase.right.path

/-- A column does not go on behind its last token: no sizes follow a bare type, and no properties
follow where there are none. -/
def ColumnPhrase.EndsBefore (phrase : ColumnPhrase) (rest : List Token) : Prop :=
  (phrase.properties? = none → phrase.type.sizes? = none → Grammar.startsWith "(" rest = false) ∧
    (phrase.properties? = none → Grammar.startsWith "[" rest = false)

/-- A line may stand between the lines before it and the tokens behind it. -/
def EntryPhrase.Fits (before : List TableEntry) (phrase : EntryPhrase) (rest : List Token) : Prop :=
  match phrase with
  | .note _ => before.any TableEntry.isNote = false
  | .column phrase => phrase.EndsBefore rest

/-! ### Marks and words -/

namespace Token

theorem isMark_eq_false_of_word {token : Token} (isWord : token.kind = .word) (text : String)
    (foreign : text.toList.any (fun char => !Text.isWord char) = true) :
    token.isMark text = false := by
  rcases List.any_eq_true.1 foreign with ⟨char, mem, notWord⟩
  have form := token.form
  rw [isWord] at form
  cases form with
  | word _ isRun =>
    have different : token.text ≠ text := by
      rintro rfl
      simp [isRun char mem] at notWord
    simp [isMark, different]

theorem isMark_eq_false_of_string {token : Token} (isString : token.kind = .string)
    (text : String) :
    token.isMark text = false := by
  simp [isMark, isString]

/-- A token that is one mark is no other mark. -/
theorem isMark_eq_false_of_ne {token : Token} {text : String} (isText : token.isMark text = true)
    (other : String) (different : text ≠ other) : token.isMark other = false := by
  simp only [isMark, Bool.and_eq_true, decide_eq_true_eq] at isText
  simp [isMark, isText.2, different]

theorem text_of_isMark {token : Token} {text : String} (isText : token.isMark text = true) :
    token.text = text := by
  simp only [isMark, Bool.and_eq_true, decide_eq_true_eq] at isText
  exact isText.2

/-- No quoted string looks like an arrow, because it begins with a quote. -/
theorem isMark_of_text_eq {token : Token} {text : String} (equal : token.text = text)
    (unquoted : text.toList.head? ≠ some '"' ∧ text.toList.head? ≠ some '\'') :
    token.isMark text = true := by
  have form := token.form
  have notString : token.kind ≠ .string := by
    intro isString
    rw [isString, equal] at form
    generalize text.toList = chars at form unquoted
    cases form with
    | string isQuote _ => rcases isQuote with rfl | rfl <;> simp at unquoted
  simp [isMark, equal, notString]

end Token

/-! ### Repetitions -/

namespace Rule

variable {Part Phrase : Type}

/-- Phrases one after the other: before each of them the repetition goes on, each of them fits
between the parts before it and the tokens behind it, and before the rest the repetition stops. -/
def Repeats (stops : List Token → Bool) (tokensOf : Phrase → List Token) (partOf : Phrase → Part)
    (fits : List Part → Phrase → List Token → Prop) :
    List Part → List Phrase → List Token → Prop
  | _, [], rest => stops rest = true
  | before, phrase :: more, rest =>
    stops (tokensOf phrase ++ (more.flatMap tokensOf ++ rest)) = false ∧
      fits before phrase (more.flatMap tokensOf ++ rest) ∧
      Repeats stops tokensOf partOf fits (before ++ [partOf phrase]) more rest

theorem Repeats.stops {stops : List Token → Bool} {tokensOf : Phrase → List Token}
    {partOf : Phrase → Part} {fits : List Part → Phrase → List Token → Prop} {before : List Part}
    {phrases : List Phrase} {rest : List Token}
    (repeats : Repeats stops tokensOf partOf fits before phrases rest) : stops rest = true := by
  induction phrases generalizing before with
  | nil => exact repeats
  | cons phrase more ih => exact ih repeats.2.2

/-- Where a rule reads phrases of one kind, its repetition reads lists of them. -/
theorem repeated_eq_ok {stops : List Token → Bool} {rule : List Part → Rule Part}
    {takes : ∀ before, (rule before).Takes} {tokensOf : Phrase → List Token}
    {partOf : Phrase → Part} (fits : List Part → Phrase → List Token → Prop)
    (reads : ∀ before tokens part rest, stops tokens = false →
      (rule before tokens = .ok (part, rest) ↔
        ∃ phrase, partOf phrase = part ∧ tokens = tokensOf phrase ++ rest ∧
        fits before phrase rest))
    {before parts : List Part} {tokens rest : List Token} :
    repeated stops rule takes before tokens = .ok (parts, rest) ↔
      ∃ phrases : List Phrase, before ++ phrases.map partOf = parts ∧
        tokens = phrases.flatMap tokensOf ++ rest ∧
        Repeats stops tokensOf partOf fits before phrases rest := by
  fun_induction repeated stops rule takes before tokens with
  | case1 before tokens stop =>
    constructor
    · intro read
      cases read
      exact ⟨[], by simp, rfl, stop⟩
    · rintro ⟨phrases, rfl, rfl, repeats⟩
      cases phrases with
      | nil => simp
      | cons phrase more =>
        have goesOn := repeats.1
        simp only [List.flatMap_cons, List.append_assoc] at stop
        simp [goesOn] at stop
  | case2 before tokens goesOn mismatch failed =>
    constructor
    · intro read
      cases read
    · rintro ⟨phrases, rfl, rfl, repeats⟩
      cases phrases with
      | nil => exact absurd repeats goesOn
      | cons phrase more =>
        rcases repeats with ⟨_, fits, _⟩
        rw [List.flatMap_cons, List.append_assoc] at goesOn failed
        rw [(reads _ _ _ _ (by simpa using goesOn)).2 ⟨phrase, rfl, rfl, fits⟩] at failed
        cases failed
  | case3 before tokens goesOn part after partRead ih =>
    rw [ih]
    constructor
    · rintro ⟨phrases, rfl, rfl, repeats⟩
      rcases (reads _ _ _ _ (by simpa using goesOn)).1 partRead with ⟨phrase, rfl, rfl, fits⟩
      exact ⟨phrase :: phrases, by simp, by simp, by simpa using goesOn, fits, repeats⟩
    · rintro ⟨phrases, rfl, rfl, repeats⟩
      cases phrases with
      | nil => exact absurd repeats goesOn
      | cons phrase more =>
        rcases repeats with ⟨_, fits, repeats⟩
        rw [List.flatMap_cons, List.append_assoc] at goesOn partRead
        rw [(reads _ _ _ _ (by simpa using goesOn)).2 ⟨phrase, rfl, rfl, fits⟩] at partRead
        cases partRead
        exact ⟨more, by simp, rfl, repeats⟩

end Rule

namespace Grammar

open Rule

variable (finish : Nat)

/-! ### Single tokens -/

theorem pure_eq_ok {Part : Type} {part result : Part} {tokens rest : List Token} :
    (pure part : Rule Part) tokens = .ok (result, rest) ↔ part = result ∧ tokens = rest := by
  change (.ok (part, tokens) : Except Mismatch (Part × List Token)) = .ok (result, rest) ↔ _
  rw [Except.ok.injEq, Prod.mk.injEq]

theorem throw_eq_ok {Part : Type} {mismatch : Mismatch} {result : Part} {tokens rest : List Token} :
    (throw mismatch : Rule Part) tokens = .ok (result, rest) ↔ False := by
  have refused : (throw mismatch : Rule Part) tokens = .error mismatch := rfl
  simp [refused]

theorem isNext_eq_ok {text : String} {tokens rest : List Token} {found : Bool} :
    isNext text tokens = .ok (found, rest) ↔ startsWith text tokens = found ∧ tokens = rest := by
  have peeked : isNext text tokens = .ok (startsWith text tokens, tokens) := rfl
  simp [peeked]

theorem next_eq_ok {tokens rest : List Token} {token : Token} :
    next finish tokens = .ok (token, rest) ↔ tokens = token :: rest := by
  cases tokens <;> simp [next]

theorem nextIf_eq_ok {accepts : Token → Bool} {wanted : Wanted} {tokens rest : List Token}
    {token : Token} :
    nextIf finish accepts wanted tokens = .ok (token, rest) ↔
      tokens = token :: rest ∧ accepts token = true := by
  simp only [nextIf, bind_eq_ok, next_eq_ok]
  constructor
  · rintro ⟨found, after, rfl, read⟩
    by_cases accepted : accepts found = true
    · simp only [accepted, if_true, pure_eq_ok] at read
      rcases read with ⟨rfl, rfl⟩
      exact ⟨rfl, accepted⟩
    · simp [accepted, throw_eq_ok] at read
  · rintro ⟨rfl, accepted⟩
    exact ⟨token, rest, rfl, by simp [accepted, pure_eq_ok]⟩

theorem mark_eq_ok {text : String} {tokens rest : List Token} {token : Token} :
    mark finish text tokens = .ok (token, rest) ↔
      ∃ found : Mark text, found.1 = token ∧ tokens = found.1 :: rest := by
  simp only [mark, nextIf_eq_ok]
  constructor
  · rintro ⟨rfl, isText⟩
    exact ⟨⟨token, isText⟩, rfl, rfl⟩
  · rintro ⟨found, rfl, rfl⟩
    exact ⟨rfl, found.2⟩

theorem word_eq_ok {tokens rest : List Token} {text : String} :
    word finish tokens = .ok (text, rest) ↔
      ∃ found : Word, found.1.text = text ∧ tokens = found.1 :: rest := by
  simp only [word, bind_eq_ok, nextIf_eq_ok, pure_eq_ok]
  constructor
  · rintro ⟨token, after, ⟨rfl, isWord⟩, rfl, rfl⟩
    exact ⟨⟨token, by simpa using isWord⟩, rfl, rfl⟩
  · rintro ⟨found, rfl, rfl⟩
    exact ⟨found.1, rest, ⟨rfl, by simpa using found.2⟩, rfl, rfl⟩

theorem string_eq_ok {tokens rest : List Token} {text : String} :
    string finish tokens = .ok (text, rest) ↔
      ∃ found : Quoted, found.1.unquoted = text ∧ tokens = found.1 :: rest := by
  simp only [string, bind_eq_ok, nextIf_eq_ok, pure_eq_ok]
  constructor
  · rintro ⟨token, after, ⟨rfl, isString⟩, rfl, rfl⟩
    exact ⟨⟨token, by simpa using isString⟩, rfl, rfl⟩
  · rintro ⟨found, rfl, rfl⟩
    exact ⟨found.1, rest, ⟨rfl, by simpa using found.2⟩, rfl, rfl⟩

/-! ### Paths, arrows and types -/

theorem path_eq_ok {tokens rest : List Token} {result : Path} :
    path finish tokens = .ok (result, rest) ↔
      ∃ phrase : PathPhrase, phrase.path = result ∧ tokens = phrase.tokens ++ rest := by
  simp only [path, bind_eq_ok, word_eq_ok, mark_eq_ok, pure_eq_ok]
  constructor
  · rintro ⟨_, _, ⟨table, rfl, rfl⟩, _, _, ⟨dot, rfl, rfl⟩, _, _, ⟨column, rfl, rfl⟩, rfl, rfl⟩
    exact ⟨⟨table, dot, column⟩, rfl, rfl⟩
  · rintro ⟨⟨table, dot, column⟩, rfl, rfl⟩
    exact ⟨_, _, ⟨table, rfl, rfl⟩, _, _, ⟨dot, rfl, rfl⟩, _, _, ⟨column, rfl, rfl⟩, rfl, rfl⟩

theorem arrow_eq_ok {tokens rest : List Token} {result : Arrow} :
    arrow finish tokens = .ok (result, rest) ↔
      ∃ phrase : ArrowPhrase, phrase.arrow = result ∧ tokens = phrase.token :: rest := by
  simp only [arrow, bind_eq_ok, nextIf_eq_ok, pure_eq_ok]
  constructor
  · rintro ⟨token, after, ⟨rfl, isArrow⟩, rfl, rfl⟩
    by_cases isLeft : token.text = "<"
    · exact ⟨.left ⟨token,
        Token.isMark_of_text_eq isLeft (by decide)⟩, by simp [isLeft, ArrowPhrase.arrow], rfl⟩
    · have isRight : token.text = ">" := by simpa [isLeft] using isArrow
      exact ⟨.right ⟨token, Token.isMark_of_text_eq isRight (by decide)⟩,
        by simp [isRight, ArrowPhrase.arrow], rfl⟩
  · rintro ⟨phrase, rfl, rfl⟩
    refine ⟨phrase.token, rest, ⟨rfl, ?_⟩, ?_, rfl⟩
    · cases phrase with
      | left mark => simp [ArrowPhrase.token, Token.text_of_isMark mark.2]
      | right mark => simp [ArrowPhrase.token, Token.text_of_isMark mark.2]
    · cases phrase with
      | left mark => simp [ArrowPhrase.token, ArrowPhrase.arrow, Token.text_of_isMark mark.2]
      | right mark => simp [ArrowPhrase.token, ArrowPhrase.arrow, Token.text_of_isMark mark.2]

theorem isNumber_iff (word : Word) :
    isNumber word.1.text = true ↔ ∀ char ∈ word.1.text.toList, Text.isDigit char = true := by
  have form := word.1.form
  rw [word.2] at form
  cases form with
  | word nonempty _ =>
    have notEmpty : word.1.text.isEmpty = false := by
      rw [Bool.eq_false_iff, Ne, String.isEmpty_iff]
      rintro isEmpty
      simp [isEmpty] at nonempty
    simp [isNumber, notEmpty]

theorem secondSize_eq_ok {tokens rest : List Token} {texts : List String} :
    secondSize finish tokens = .ok (texts, rest) ↔
      ∃ second? : Option (Mark "," × Word),
        second?.elim [] (fun second => [second.2.1.text]) = texts ∧
        tokens = second?.elim [] (fun second => [second.1.1, second.2.1]) ++ rest ∧
        (second? = none → startsWith "," rest = false) := by
  simp only [secondSize, bind_eq_ok, isNext_eq_ok]
  constructor
  · rintro ⟨found, after, ⟨follows, rfl⟩, read⟩
    cases found with
    | true =>
      simp only [if_true, bind_eq_ok, next_eq_ok, word_eq_ok, pure_eq_ok] at read
      rcases read with ⟨comma, _, rfl, _, _, ⟨size, rfl, rfl⟩, rfl, rfl⟩
      exact ⟨some (⟨comma, follows⟩, size), rfl, rfl, by simp⟩
    | false =>
      simp only [Bool.false_eq_true, if_false, pure_eq_ok] at read
      rcases read with ⟨rfl, rfl⟩
      exact ⟨none, rfl, rfl, fun _ => follows⟩
  · rintro ⟨second?, rfl, rfl, ends⟩
    cases second? with
    | none =>
      refine ⟨false, rest, ⟨ends rfl, rfl⟩, ?_⟩
      simp [pure_eq_ok]
    | some second =>
      refine ⟨true, _, ⟨second.1.2, rfl⟩, ?_⟩
      simp only [if_true, bind_eq_ok, next_eq_ok, word_eq_ok, pure_eq_ok]
      exact ⟨_, _, rfl, _, _, ⟨second.2, rfl, rfl⟩, rfl, rfl⟩

theorem sizes_eq_ok {base : String} {tokens rest : List Token} {texts : List String} :
    sizes finish base tokens = .ok (texts, rest) ↔
      ∃ phrase : SizesPhrase, phrase.sizes = texts ∧ tokens = phrase.tokens ++ rest := by
  simp only [sizes, bind_eq_ok, mark_eq_ok, word_eq_ok, secondSize_eq_ok]
  constructor
  · rintro ⟨_, _, ⟨opening, rfl, rfl⟩, _, _, ⟨first, rfl, rfl⟩, _, _, ⟨second?, rfl, rfl, ends⟩,
      _, _, ⟨closing, rfl, rfl⟩, read⟩
    generalize search : List.find? (fun size => !isNumber size) _ = bad? at read
    cases bad? with
    | some bad => simp [throw_eq_ok] at read
    | none =>
      rcases pure_eq_ok.1 read with ⟨rfl, rfl⟩
      have numbers := List.find?_eq_none.1 search
      have firstIsNumber := (isNumber_iff first).1 (by simpa using numbers first.1.text (by simp))
      cases second? with
      | none => exact ⟨⟨opening, ⟨first.1, first.2, firstIsNumber⟩, none, closing⟩, rfl, rfl⟩
      | some second =>
        rcases second with ⟨comma, size⟩
        have sizeIsNumber := (isNumber_iff size).1 (by simpa using numbers size.1.text (by simp))
        exact ⟨⟨opening, ⟨first.1, first.2, firstIsNumber⟩,
          some (comma, ⟨size.1, size.2, sizeIsNumber⟩), closing⟩, rfl, rfl⟩
  · rintro ⟨⟨opening, first, second?, closing⟩, rfl, rfl⟩
    have firstIsNumber := (isNumber_iff ⟨first.1, first.2.1⟩).2 first.2.2
    cases second? with
    | none =>
      refine ⟨_, _, ⟨opening, rfl, rfl⟩, _, _, ⟨⟨first.1, first.2.1⟩, rfl, rfl⟩, _, _,
        ⟨none, rfl, rfl, fun _ => ?_⟩, _, _, ⟨closing, rfl, rfl⟩, ?_⟩
      · exact Token.isMark_eq_false_of_ne closing.2 _ (by decide)
      · simp [firstIsNumber, pure_eq_ok, SizesPhrase.sizes]
    | some second =>
      rcases second with ⟨comma, size⟩
      have sizeIsNumber := (isNumber_iff ⟨size.1, size.2.1⟩).2 size.2.2
      refine ⟨_, _, ⟨opening, rfl, rfl⟩, _, _, ⟨⟨first.1, first.2.1⟩, rfl, rfl⟩, _, _,
        ⟨some (comma, ⟨size.1, size.2.1⟩), rfl, rfl, by simp⟩, _, _, ⟨closing, rfl, rfl⟩, ?_⟩
      simp [firstIsNumber, sizeIsNumber, pure_eq_ok, SizesPhrase.sizes]

theorem columnType_eq_ok {tokens rest : List Token} {type : ColumnType} :
    columnType finish tokens = .ok (type, rest) ↔
      ∃ phrase : TypePhrase, phrase.type = type ∧ tokens = phrase.tokens ++ rest ∧
        (phrase.sizes? = none → startsWith "(" rest = false) := by
  simp only [columnType, bind_eq_ok, word_eq_ok, isNext_eq_ok]
  constructor
  · rintro ⟨_, _, ⟨base, rfl, rfl⟩, found, after, ⟨follows, rfl⟩, read⟩
    cases found with
    | true =>
      simp only [if_true, bind_eq_ok, sizes_eq_ok, pure_eq_ok] at read
      rcases read with ⟨_, _, ⟨phrase, rfl, rfl⟩, rfl, rfl⟩
      exact ⟨⟨base, some phrase⟩, rfl, rfl, by simp⟩
    | false =>
      simp only [Bool.false_eq_true, if_false, pure_eq_ok] at read
      rcases read with ⟨rfl, rfl⟩
      exact ⟨⟨base, none⟩, rfl, rfl, fun _ => follows⟩
  · rintro ⟨⟨base, sizes?⟩, rfl, rfl, ends⟩
    cases sizes? with
    | none =>
      refine ⟨_, _, ⟨base, rfl, rfl⟩, false, rest, ⟨ends rfl, rfl⟩, ?_⟩
      simp [pure_eq_ok, TypePhrase.type]
    | some phrase =>
      refine ⟨_, _, ⟨base, rfl, rfl⟩, true, _, ⟨phrase.opening.2, rfl⟩, ?_⟩
      simp only [if_true, bind_eq_ok, sizes_eq_ok, pure_eq_ok]
      exact ⟨_, _, ⟨phrase, rfl, rfl⟩, rfl, rfl⟩

/-! ### Properties and columns -/

theorem propertyOf_eq_ok {token : Token} {tokens rest : List Token} {property : Property} :
    propertyOf finish token tokens = .ok (property, rest) ↔
      ∃ phrase : PropertyPhrase, phrase.property = property ∧
        token :: tokens = phrase.tokens ++ rest := by
  unfold propertyOf
  constructor
  · intro read
    split at read
    · rename_i isPrimaryKey
      rcases pure_eq_ok.1 read with ⟨rfl, rfl⟩
      exact ⟨.primaryKey ⟨token, isPrimaryKey⟩, rfl, rfl⟩
    split at read
    · rename_i isNotNull
      rcases pure_eq_ok.1 read with ⟨rfl, rfl⟩
      exact ⟨.notNull ⟨token, isNotNull⟩, rfl, rfl⟩
    split at read
    · rename_i isNote
      simp only [bind_eq_ok, mark_eq_ok, string_eq_ok, pure_eq_ok] at read
      rcases read with ⟨_, _, ⟨colon, rfl, rfl⟩, _, _, ⟨text, rfl, rfl⟩, rfl, rfl⟩
      exact ⟨.note ⟨token, isNote⟩ colon text, rfl, rfl⟩
    split at read
    · rename_i isReference
      simp only [bind_eq_ok, mark_eq_ok, arrow_eq_ok, path_eq_ok, pure_eq_ok] at read
      rcases read with ⟨_, _, ⟨colon, rfl, rfl⟩, _, _, ⟨arrow, rfl, rfl⟩, _, _,
        ⟨other, rfl, rfl⟩, rfl, rfl⟩
      exact ⟨.reference ⟨token, isReference⟩ colon arrow other, rfl, rfl⟩
    · exact absurd read (by simp [throw_eq_ok])
  · rintro ⟨phrase, rfl, equal⟩
    cases phrase with
    | primaryKey keyword =>
      rcases List.cons.inj equal with ⟨rfl, rfl⟩
      simp [keyword.2, pure_eq_ok, PropertyPhrase.property]
    | notNull keyword =>
      rcases List.cons.inj equal with ⟨rfl, rfl⟩
      have isNoKey := Token.isMark_eq_false_of_ne keyword.2 "pk" (by decide)
      simp [keyword.2, isNoKey, pure_eq_ok, PropertyPhrase.property]
    | note keyword colon text =>
      rcases List.cons.inj equal with ⟨rfl, rfl⟩
      have isNoKey := Token.isMark_eq_false_of_ne keyword.2 "pk" (by decide)
      have isNullable := Token.isMark_eq_false_of_ne keyword.2 "nn" (by decide)
      simp only [isNoKey, isNullable, keyword.2, Bool.false_eq_true, if_true, if_false, bind_eq_ok,
        mark_eq_ok, string_eq_ok, pure_eq_ok]
      exact ⟨_, _, ⟨colon, rfl, rfl⟩, _, _, ⟨text, rfl, rfl⟩, rfl, rfl⟩
    | reference keyword colon arrow other =>
      rcases List.cons.inj equal with ⟨rfl, rfl⟩
      have isNoKey := Token.isMark_eq_false_of_ne keyword.2 "pk" (by decide)
      have isNullable := Token.isMark_eq_false_of_ne keyword.2 "nn" (by decide)
      have isNoNote := Token.isMark_eq_false_of_ne keyword.2 "note" (by decide)
      simp only [isNoKey, isNullable, isNoNote, keyword.2, Bool.false_eq_true, if_true, if_false,
        bind_eq_ok, mark_eq_ok, arrow_eq_ok, path_eq_ok, pure_eq_ok]
      exact ⟨_, _, ⟨colon, rfl, rfl⟩, _, _, ⟨arrow, rfl, rfl⟩, _, _, ⟨other, rfl, rfl⟩, rfl, rfl⟩

theorem property_eq_ok {tokens rest : List Token} {result : Property} :
    property finish tokens = .ok (result, rest) ↔
      ∃ phrase : PropertyPhrase, phrase.property = result ∧ tokens = phrase.tokens ++ rest := by
  simp only [property, bind_eq_ok, next_eq_ok, propertyOf_eq_ok]
  constructor
  · rintro ⟨token, after, rfl, phrase, rfl, equal⟩
    exact ⟨phrase, rfl, equal⟩
  · rintro ⟨phrase, rfl, rfl⟩
    cases phrase <;> exact ⟨_, _, rfl, _, rfl, rfl⟩

theorem nextProperty_eq_ok {tokens rest : List Token} {result : Property} :
    nextProperty finish tokens = .ok (result, rest) ↔
      ∃ further : Mark "," × PropertyPhrase, further.2.property = result ∧
        tokens = PropertyPhrase.tokensAfterComma further ++ rest := by
  simp only [nextProperty, bind_eq_ok, mark_eq_ok, property_eq_ok]
  constructor
  · rintro ⟨_, _, ⟨comma, rfl, rfl⟩, phrase, rfl, rfl⟩
    exact ⟨(comma, phrase), rfl, rfl⟩
  · rintro ⟨⟨comma, phrase⟩, rfl, rfl⟩
    exact ⟨_, _, ⟨comma, rfl, rfl⟩, phrase, rfl, rfl⟩

theorem repeats_properties (closing : Mark "]") (rest : List Token) (before : List Property)
    (more : List (Mark "," × PropertyPhrase)) :
    Repeats (!startsWith "," ·) PropertyPhrase.tokensAfterComma (fun further => further.2.property)
      (fun _ _ _ => True) before more (closing.1 :: rest) := by
  induction more generalizing before with
  | nil =>
    have isNoComma := Token.isMark_eq_false_of_ne closing.2 "," (by decide)
    simp [Repeats, startsWith, isNoComma]
  | cons further more ih =>
    refine ⟨?_, trivial, ih _⟩
    simp [PropertyPhrase.tokensAfterComma, startsWith, further.1.2]

theorem moreProperties_eq_ok {before result : List Property} {tokens rest : List Token} :
    repeated (!startsWith "," ·) (fun _ => nextProperty finish) (fun _ => takes_nextProperty finish)
        before tokens = .ok (result, rest) ↔
      ∃ more : List (Mark "," × PropertyPhrase),
        before ++ more.map (fun further => further.2.property) = result ∧
        tokens = more.flatMap PropertyPhrase.tokensAfterComma ++ rest ∧
        Repeats (!startsWith "," ·) PropertyPhrase.tokensAfterComma
          (fun further => further.2.property)
          (fun _ _ _ => True) before more rest :=
  repeated_eq_ok (fun _ _ _ => True) fun _ _ _ _ _ => by simp [nextProperty_eq_ok]

theorem properties_eq_ok {tokens rest : List Token} {result : List Property} :
    properties finish tokens = .ok (result, rest) ↔
      ∃ phrase : PropertiesPhrase,
        (phrase.first :: phrase.more.map Prod.snd).map PropertyPhrase.property = result ∧
        tokens = phrase.tokens ++ rest := by
  simp only [properties, bind_eq_ok, mark_eq_ok, property_eq_ok, pure_eq_ok, moreProperties_eq_ok]
  constructor
  · rintro ⟨_, _, ⟨opening, rfl, rfl⟩, _, _, ⟨first, rfl, rfl⟩, _, _, ⟨more, rfl, rfl, repeats⟩,
      _, _, ⟨closing, rfl, rfl⟩, rfl, rfl⟩
    exact ⟨⟨opening, first, more, closing⟩, by simp, by simp [PropertiesPhrase.tokens]⟩
  · rintro ⟨⟨opening, first, more, closing⟩, rfl, rfl⟩
    refine ⟨_, _, ⟨opening, rfl, rfl⟩, _, _, ⟨first, rfl, ?_⟩, _, _,
      ⟨more, rfl, rfl, repeats_properties closing rest _ more⟩, _, _, ⟨closing, rfl, rfl⟩, ?_, rfl⟩
    · simp
    · simp

theorem column_eq_ok {tokens rest : List Token} {result : ColumnDeclaration} :
    column finish tokens = .ok (result, rest) ↔
      ∃ phrase : ColumnPhrase, phrase.declaration = result ∧ tokens = phrase.tokens ++ rest ∧
        phrase.EndsBefore rest := by
  simp only [column, bind_eq_ok, word_eq_ok, columnType_eq_ok, isNext_eq_ok]
  constructor
  · rintro ⟨_, _, ⟨name, rfl, rfl⟩, _, _, ⟨type, rfl, rfl, typeEnds⟩, found, _,
      ⟨follows, rfl⟩, read⟩
    cases found with
    | true =>
      simp only [if_true, bind_eq_ok, properties_eq_ok, pure_eq_ok] at read
      rcases read with ⟨_, _, ⟨properties, rfl, rfl⟩, rfl, rfl⟩
      exact ⟨⟨name, type, some properties⟩, rfl, by simp [ColumnPhrase.tokens], by simp, by simp⟩
    | false =>
      simp only [Bool.false_eq_true, if_false, pure_eq_ok] at read
      rcases read with ⟨rfl, rfl⟩
      exact ⟨⟨name, type, none⟩, rfl, by simp [ColumnPhrase.tokens], fun _ => typeEnds,
        fun _ => follows⟩
  · rintro ⟨⟨name, type, properties?⟩, rfl, rfl, typeEnds, ends⟩
    cases properties? with
    | none =>
      refine ⟨_, _, ⟨name, rfl, rfl⟩, _, rest, ⟨type, rfl, by simp, typeEnds rfl⟩, false, rest,
        ⟨ends rfl, rfl⟩, ?_⟩
      simp [pure_eq_ok, ColumnPhrase.declaration, ColumnPhrase.properties]
    | some properties =>
      have opens := properties.opening.2
      refine ⟨_, _, ⟨name, rfl, rfl⟩, _, properties.tokens ++ rest,
        ⟨type, rfl, by simp, fun _ => ?_⟩,
        true, _, ⟨opens, rfl⟩, ?_⟩
      · exact Token.isMark_eq_false_of_ne opens _ (by decide)
      · simp only [if_true, bind_eq_ok, properties_eq_ok, pure_eq_ok]
        exact ⟨_, _, ⟨properties, rfl, rfl⟩, rfl, rfl⟩

/-! ### Tables -/

theorem noteFollows_iff {tokens : List Token} :
    noteFollows tokens = true ↔
      ∃ (keyword : Mark "Note") (colon : Mark ":") (rest : List Token),
        tokens = keyword.1 :: colon.1 :: rest := by
  constructor
  · intro follows
    match tokens with
    | [] => simp [noteFollows] at follows
    | [_] => simp [noteFollows] at follows
    | keyword :: colon :: rest =>
      have areMarks : keyword.isMark "Note" = true ∧ colon.isMark ":" = true := by
        simpa [noteFollows] using follows
      rcases areMarks with ⟨isNote, isColon⟩
      exact ⟨⟨keyword, isNote⟩, ⟨colon, isColon⟩, rest, rfl⟩
  · rintro ⟨keyword, colon, rest, rfl⟩
    simp [noteFollows, keyword.2, colon.2]

theorem note_eq_ok {before : List TableEntry} {keyword : Mark "Note"} {tokens rest : List Token}
    {result : TableEntry} :
    note finish before (keyword.1 :: tokens) = .ok (result, rest) ↔
      before.any TableEntry.isNote = false ∧ ∃ (colon : Mark ":") (text : Quoted),
        .note text.1.unquoted = result ∧ tokens = colon.1 :: text.1 :: rest := by
  simp only [note, bind_eq_ok, next_eq_ok]
  constructor
  · rintro ⟨_, _, same, read⟩
    rcases List.cons.inj same with ⟨rfl, rfl⟩
    split at read
    · exact absurd read (by simp [throw_eq_ok])
    · rename_i noNote
      simp only [bind_eq_ok, mark_eq_ok, string_eq_ok, pure_eq_ok] at read
      rcases read with ⟨_, _, ⟨colon, rfl, rfl⟩, _, _, ⟨text, rfl, rfl⟩, rfl, rfl⟩
      exact ⟨by simpa using noNote, colon, text, rfl, rfl⟩
  · rintro ⟨noNote, colon, text, rfl, rfl⟩
    refine ⟨_, _, rfl, ?_⟩
    simp only [noNote, Bool.false_eq_true, if_false, bind_eq_ok, mark_eq_ok, string_eq_ok,
      pure_eq_ok]
    exact ⟨_, _, ⟨colon, rfl, rfl⟩, _, _, ⟨text, rfl, rfl⟩, rfl, rfl⟩

theorem noteFollows_column (phrase : ColumnPhrase) (rest : List Token) :
    noteFollows (phrase.tokens ++ rest) = false := by
  rcases phrase with ⟨name, ⟨base, sizes?⟩, properties?⟩
  have isNoColon := Token.isMark_eq_false_of_word base.2 ":" (by decide)
  simp [noteFollows, ColumnPhrase.tokens, TypePhrase.tokens, isNoColon]

theorem entry_eq_ok {before : List TableEntry} {tokens rest : List Token} {result : TableEntry} :
    entry finish before tokens = .ok (result, rest) ↔
      ∃ phrase : EntryPhrase, phrase.entry = result ∧ tokens = phrase.tokens ++ rest ∧
        phrase.Fits before rest := by
  unfold entry
  constructor
  · intro read
    split at read
    · rename_i follows
      rcases noteFollows_iff.1 follows with ⟨keyword, colon, rest, rfl⟩
      rcases (note_eq_ok finish).1 read with ⟨noNote, colon, text, rfl, equal⟩
      exact ⟨.note ⟨keyword, colon, text⟩,
        rfl, by simp [EntryPhrase.tokens, NotePhrase.tokens, equal], noNote⟩
    · rw [map_eq_pure_bind] at read
      simp only [bind_eq_ok, column_eq_ok, pure_eq_ok] at read
      rcases read with ⟨_, _, ⟨phrase, rfl, rfl, ends⟩, rfl, rfl⟩
      exact ⟨.column phrase, rfl, rfl, ends⟩
  · rintro ⟨phrase, rfl, rfl, fits⟩
    cases phrase with
    | note phrase =>
      rcases phrase with ⟨keyword, colon, text⟩
      have follows : noteFollows (EntryPhrase.tokens (.note ⟨keyword, colon, text⟩) ++ rest) =
          true :=
        noteFollows_iff.2 ⟨keyword, colon, _, rfl⟩
      rw [if_pos follows]
      exact (note_eq_ok finish).2 ⟨fits, colon, text, rfl, rfl⟩
    | column phrase =>
      simp only [EntryPhrase.tokens, noteFollows_column, Bool.false_eq_true, if_false]
      rw [map_eq_pure_bind]
      simp only [bind_eq_ok, column_eq_ok, pure_eq_ok]
      exact ⟨_, _, ⟨phrase, rfl, rfl, fits⟩, rfl, rfl⟩

/-- Behind a line of a table stands a word, a note or the closing brace. -/
theorem startsWith_entries {text : String} (entries : List EntryPhrase) (closing : Mark "\x7d")
    (rest : List Token) (foreign : text.toList.any (fun char => !Text.isWord char) = true)
    (notClosing : text ≠ "\x7d") :
    startsWith text (entries.flatMap EntryPhrase.tokens ++ closing.1 :: rest) = false := by
  cases entries with
  | nil => exact Token.isMark_eq_false_of_ne closing.2 _ notClosing.symm
  | cons entry more =>
    cases entry with
    | note phrase =>
      refine Token.isMark_eq_false_of_ne phrase.keyword.2 _ ?_
      rintro rfl
      revert foreign
      decide
    | column phrase => exact Token.isMark_eq_false_of_word phrase.name.2 _ foreign

theorem startsWith_closing_entry (entry : EntryPhrase) (rest : List Token) :
    startsWith "\x7d" (entry.tokens ++ rest) = false := by
  cases entry with
  | note phrase => exact Token.isMark_eq_false_of_ne phrase.keyword.2 _ (by decide)
  | column phrase => exact Token.isMark_eq_false_of_word phrase.name.2 _ (by decide)

theorem repeats_entries (closing : Mark "\x7d") (rest : List Token) (entries : List EntryPhrase)
    (before : List TableEntry) (atMostOne : (before.filter TableEntry.isNote).length ≤ 1) :
    Repeats (startsWith "\x7d") EntryPhrase.tokens EntryPhrase.entry EntryPhrase.Fits before entries
        (closing.1 :: rest) ↔
      (before.filter TableEntry.isNote).length + (entries.filterMap EntryPhrase.note?).length ≤
        1 := by
  induction entries generalizing before with
  | nil => simp [Repeats, startsWith, closing.2, atMostOne]
  | cons entry more ih =>
    simp only [Repeats, startsWith_closing_entry, true_and]
    cases entry with
    | note phrase =>
      have noNoteIff : before.any TableEntry.isNote = false ↔
          (before.filter TableEntry.isNote).length = 0 := by simp
      have grown : ((before ++ [(EntryPhrase.note phrase).entry]).filter TableEntry.isNote).length =
          (before.filter TableEntry.isNote).length + 1 := by
        rw [List.filter_append, List.length_append]
        rfl
      have counted : ((EntryPhrase.note phrase :: more).filterMap EntryPhrase.note?).length =
          (more.filterMap EntryPhrase.note?).length + 1 := rfl
      simp only [EntryPhrase.Fits, noNoteIff]
      rw [counted]
      constructor
      · rintro ⟨noNote, repeats⟩
        have least := (ih _ (by omega)).1 repeats
        omega
      · intro least
        exact ⟨by omega, (ih _ (by omega)).2 (by omega)⟩
    | column phrase =>
      have kept : (before ++ [(EntryPhrase.column phrase).entry]).filter TableEntry.isNote =
          before.filter TableEntry.isNote := by
        rw [List.filter_append]
        exact List.append_nil _
      have uncounted : (EntryPhrase.column phrase :: more).filterMap EntryPhrase.note? =
          more.filterMap EntryPhrase.note? := rfl
      have ends : phrase.EndsBefore (more.flatMap EntryPhrase.tokens ++ closing.1 :: rest) :=
        ⟨fun _ _ => startsWith_entries more closing rest (by decide) (by decide),
          fun _ => startsWith_entries more closing rest (by decide) (by decide)⟩
      have step := ih (before ++ [(EntryPhrase.column phrase).entry])
        (by rw [kept]; exact atMostOne)
      simp only [EntryPhrase.Fits, ends, true_and, step]
      rw [kept, uncounted]

theorem entries_eq_ok {before result : List TableEntry} {tokens rest : List Token} :
    repeated (startsWith "\x7d") (entry finish) (takes_entry finish) before tokens =
        .ok (result, rest) ↔
      ∃ entries : List EntryPhrase, before ++ entries.map EntryPhrase.entry = result ∧
        tokens = entries.flatMap EntryPhrase.tokens ++ rest ∧
        Repeats (startsWith "\x7d") EntryPhrase.tokens EntryPhrase.entry EntryPhrase.Fits
          before entries
          rest :=
  repeated_eq_ok EntryPhrase.Fits fun _ _ _ _ _ => entry_eq_ok finish

theorem alias?_eq_ok {tokens rest : List Token} {result : Option String} :
    alias? finish tokens = .ok (result, rest) ↔
      ∃ second? : Option (Mark "as" × Word), (second?.map fun second => second.2.1.text) = result ∧
        tokens = second?.elim [] (fun second => [second.1.1, second.2.1]) ++ rest ∧
        (second? = none → startsWith "as" rest = false) := by
  simp only [alias?, bind_eq_ok, isNext_eq_ok]
  constructor
  · rintro ⟨found, after, ⟨follows, rfl⟩, read⟩
    cases found with
    | true =>
      simp only [if_true, bind_eq_ok, next_eq_ok, word_eq_ok, pure_eq_ok] at read
      rcases read with ⟨keyword, _, rfl, _, _, ⟨name, rfl, rfl⟩, rfl, rfl⟩
      exact ⟨some (⟨keyword, follows⟩, name), rfl, rfl, by simp⟩
    | false =>
      simp only [Bool.false_eq_true, if_false, pure_eq_ok] at read
      rcases read with ⟨rfl, rfl⟩
      exact ⟨none, rfl, rfl, fun _ => follows⟩
  · rintro ⟨second?, rfl, rfl, ends⟩
    cases second? with
    | none =>
      refine ⟨false, rest, ⟨ends rfl, rfl⟩, ?_⟩
      simp [pure_eq_ok]
    | some second =>
      refine ⟨true, _, ⟨second.1.2, rfl⟩, ?_⟩
      simp only [if_true, bind_eq_ok, next_eq_ok, word_eq_ok, pure_eq_ok]
      exact ⟨_, _, rfl, _, _, ⟨second.2, rfl, rfl⟩, rfl, rfl⟩

theorem table_eq_ok {tokens rest : List Token} {result : Declaration} :
    table finish tokens = .ok (result, rest) ↔
      ∃ phrase : TablePhrase, DeclarationPhrase.declaration (.table phrase) = result ∧
        tokens = phrase.tokens ++ rest := by
  simp only [table, bind_eq_ok, mark_eq_ok, word_eq_ok, alias?_eq_ok, entries_eq_ok, pure_eq_ok]
  constructor
  · rintro ⟨_, _, ⟨keyword, rfl, rfl⟩, _, _, ⟨name, rfl, rfl⟩, _, _, ⟨second?, rfl, rfl, _⟩, _, _,
      ⟨opening, rfl, rfl⟩, _, _, ⟨entries, rfl, rfl, repeats⟩, _, _, ⟨closing, rfl, rfl⟩, rfl, rfl⟩
    have atMostOne := (repeats_entries closing _ entries [] (by simp)).1 repeats
    exact ⟨⟨keyword, name, second?, opening, entries, closing, by simpa using atMostOne⟩, rfl,
      by simp [TablePhrase.tokens]⟩
  · rintro ⟨⟨keyword, name, second?, opening, entries, closing, atMostOne⟩, rfl, rfl⟩
    have repeats := (repeats_entries closing rest entries [] (by simp)).2 (by simpa using atMostOne)
    refine ⟨_, _, ⟨keyword, rfl, rfl⟩, _, _, ⟨name, rfl, rfl⟩, _, _,
      ⟨second?, rfl, ?_, fun _ => ?_⟩,
      _, _, ⟨opening, rfl, rfl⟩, _, _, ⟨entries, rfl, rfl, repeats⟩, _, _,
      ⟨closing, rfl, rfl⟩, rfl, rfl⟩
    · simp
    · exact Token.isMark_eq_false_of_ne opening.2 _ (by decide)

/-! ### Enums and references -/

theorem optionalComma_eq_ok {tokens rest : List Token} {result : Unit} :
    optionalComma tokens = .ok (result, rest) ↔
      ∃ comma? : Option (Mark ","), tokens = comma?.elim [] (fun comma => [comma.1]) ++ rest ∧
        (comma? = none → startsWith "," rest = false) := by
  have passed : optionalComma tokens =
      .ok ((), if startsWith "," tokens then tokens.drop 1 else tokens) := rfl
  simp only [passed, Except.ok.injEq, Prod.mk.injEq, true_and]
  constructor
  · rintro rfl
    split
    · rename_i follows
      match tokens with
      | [] => simp [startsWith] at follows
      | comma :: rest => exact ⟨some ⟨comma, follows⟩, rfl, by simp⟩
    · rename_i ends
      exact ⟨none, rfl, fun _ => by simpa using ends⟩
  · rintro ⟨comma?, rfl, ends⟩
    cases comma? with
    | none => simp [ends rfl]
    | some comma => simp [startsWith, comma.2]

theorem member_eq_ok {tokens rest : List Token} {result : String} :
    member finish tokens = .ok (result, rest) ↔
      ∃ phrase : MemberPhrase, phrase.text = result ∧ tokens = phrase.tokens ++ rest ∧
        (phrase.comma? = none → startsWith "," rest = false) := by
  simp only [member, bind_eq_ok, nextIf_eq_ok, optionalComma_eq_ok, pure_eq_ok]
  constructor
  · rintro ⟨token, _, ⟨rfl, isMember⟩, _, _, ⟨comma?, rfl, ends⟩, rfl, rfl⟩
    have isMember : token.kind = .word ∨ token.kind = .string := by
      cases kindEq : token.kind <;> simp_all
    exact ⟨⟨⟨token, isMember⟩, comma?⟩, rfl, rfl, ends⟩
  · rintro ⟨⟨value, comma?⟩, rfl, rfl, ends⟩
    refine ⟨value.1, _, ⟨rfl, ?_⟩, (), rest, ⟨comma?, rfl, ends⟩, rfl, rfl⟩
    rcases value.2 with isWord | isString
    · simp [isWord]
    · simp [isString]

theorem Member.isMark_eq_false (member : Member) {text : String}
    (foreign : text.toList.any (fun char => !Text.isWord char) = true) :
    member.1.isMark text = false := by
  rcases member.2 with isWord | isString
  · exact Token.isMark_eq_false_of_word isWord _ foreign
  · exact Token.isMark_eq_false_of_string isString _

theorem repeats_members (closing : Mark "\x7d") (rest : List Token) (before : List String)
    (members : List MemberPhrase) :
    Repeats (startsWith "\x7d") MemberPhrase.tokens MemberPhrase.text
      (fun _ phrase rest => phrase.comma? = none → startsWith "," rest = false) before members
      (closing.1 :: rest) := by
  induction members generalizing before with
  | nil => exact closing.2
  | cons member more ih =>
    refine ⟨Member.isMark_eq_false member.value (by decide), fun _ => ?_, ih _⟩
    cases more with
    | nil => exact Token.isMark_eq_false_of_ne closing.2 _ (by decide)
    | cons next _ => exact Member.isMark_eq_false next.value (by decide)

theorem members_eq_ok {before result : List String} {tokens rest : List Token} :
    repeated (startsWith "\x7d") (fun _ => member finish) (fun _ => takes_member finish) before
        tokens = .ok (result, rest) ↔
      ∃ members : List MemberPhrase, before ++ members.map MemberPhrase.text = result ∧
        tokens = members.flatMap MemberPhrase.tokens ++ rest ∧
        Repeats (startsWith "\x7d") MemberPhrase.tokens MemberPhrase.text
          (fun _ phrase rest => phrase.comma? = none → startsWith "," rest = false) before members
          rest :=
  repeated_eq_ok _ fun _ _ _ _ _ => member_eq_ok finish

theorem enum_eq_ok {tokens rest : List Token} {result : Declaration} :
    enum finish tokens = .ok (result, rest) ↔
      ∃ phrase : EnumPhrase, DeclarationPhrase.declaration (.enum phrase) = result ∧
        tokens = phrase.tokens ++ rest := by
  simp only [enum, bind_eq_ok, mark_eq_ok, word_eq_ok, members_eq_ok, pure_eq_ok]
  constructor
  · rintro ⟨_, _, ⟨keyword, rfl, rfl⟩, _, _, ⟨name, rfl, rfl⟩, _, _, ⟨opening, rfl, rfl⟩, _, _,
      ⟨members, rfl, rfl, _⟩, _, _, ⟨closing, rfl, rfl⟩, rfl, rfl⟩
    exact ⟨⟨keyword, name, opening, members, closing⟩, rfl, by simp [EnumPhrase.tokens]⟩
  · rintro ⟨⟨keyword, name, opening, members, closing⟩, rfl, rfl⟩
    refine ⟨_, _, ⟨keyword, rfl, rfl⟩, _, _, ⟨name, rfl, rfl⟩, _, _, ⟨opening, rfl, rfl⟩, _, _,
      ⟨members, rfl, ?_, repeats_members closing rest [] members⟩, _, _,
      ⟨closing, rfl, rfl⟩, rfl, rfl⟩
    simp

theorem referenceName?_eq_ok {tokens rest : List Token} {result : Option String} :
    referenceName? finish tokens = .ok (result, rest) ↔
      ∃ name? : Option Word, (name?.map fun name => name.1.text) = result ∧
        tokens = name?.elim [] (fun name => [name.1]) ++ rest ∧
        (name? = none → startsWith ":" rest = true) := by
  simp only [referenceName?, bind_eq_ok, isNext_eq_ok]
  constructor
  · rintro ⟨found, after, ⟨follows, rfl⟩, read⟩
    cases found with
    | true =>
      simp only [if_true, pure_eq_ok] at read
      rcases read with ⟨rfl, rfl⟩
      exact ⟨none, rfl, rfl, fun _ => follows⟩
    | false =>
      simp only [Bool.false_eq_true, if_false, bind_eq_ok, word_eq_ok, pure_eq_ok] at read
      rcases read with ⟨_, _, ⟨name, rfl, rfl⟩, rfl, rfl⟩
      exact ⟨some name, rfl, rfl, by simp⟩
  · rintro ⟨name?, rfl, rfl, follows⟩
    cases name? with
    | none =>
      refine ⟨true, rest, ⟨follows rfl, rfl⟩, ?_⟩
      simp [pure_eq_ok]
    | some name =>
      refine ⟨false, _, ⟨Token.isMark_eq_false_of_word name.2 _ (by decide), rfl⟩, ?_⟩
      simp only [Bool.false_eq_true, if_false, bind_eq_ok, word_eq_ok, pure_eq_ok]
      exact ⟨_, _, ⟨name, rfl, rfl⟩, rfl, rfl⟩

theorem reference_eq_ok {tokens rest : List Token} {result : Declaration} :
    reference finish tokens = .ok (result, rest) ↔
      ∃ phrase : ReferencePhrase, DeclarationPhrase.declaration (.reference phrase) = result ∧
        tokens = phrase.tokens ++ rest := by
  simp only [reference, bind_eq_ok, mark_eq_ok, referenceName?_eq_ok, path_eq_ok, arrow_eq_ok,
    pure_eq_ok]
  constructor
  · rintro ⟨_, _, ⟨keyword, rfl, rfl⟩, _, _, ⟨name?, rfl, rfl, _⟩, _, _, ⟨colon, rfl, rfl⟩, _, _,
      ⟨left, rfl, rfl⟩, _, _, ⟨arrow, rfl, rfl⟩, _, _, ⟨right, rfl, rfl⟩, rfl, rfl⟩
    exact ⟨⟨keyword, name?, colon, left, arrow, right⟩, rfl, by simp [ReferencePhrase.tokens]⟩
  · rintro ⟨⟨keyword, name?, colon, left, arrow, right⟩, rfl, rfl⟩
    refine ⟨_, _, ⟨keyword, rfl, rfl⟩, _, _, ⟨name?, rfl, ?_, fun _ => ?_⟩, _, _, ⟨colon, rfl, rfl⟩,
      _, _, ⟨left, rfl, rfl⟩, _, _, ⟨arrow, rfl, rfl⟩, _, _, ⟨right, rfl, rfl⟩, rfl, rfl⟩
    · simp
    · exact colon.2

/-! ### Declarations -/

theorem declaration_eq_ok {tokens rest : List Token} {result : Declaration} :
    declaration finish tokens = .ok (result, rest) ↔
      ∃ phrase : DeclarationPhrase, phrase.declaration = result ∧
      tokens = phrase.tokens ++ rest := by
  unfold declaration
  constructor
  · intro read
    split at read
    · rcases (table_eq_ok finish).1 read with ⟨phrase, rfl, rfl⟩
      exact ⟨.table phrase, rfl, rfl⟩
    split at read
    · rcases (enum_eq_ok finish).1 read with ⟨phrase, rfl, rfl⟩
      exact ⟨.enum phrase, rfl, rfl⟩
    split at read
    · rcases (reference_eq_ok finish).1 read with ⟨phrase, rfl, rfl⟩
      exact ⟨.reference phrase, rfl, rfl⟩
    · simp only [noDeclaration, bind_eq_ok, throw_eq_ok] at read
      rcases read with ⟨_, _, _, impossible⟩
      exact impossible.elim
  · rintro ⟨phrase, rfl, rfl⟩
    cases phrase with
    | table phrase =>
      have isTable : startsWith "Table" (phrase.tokens ++ rest) = true := phrase.keyword.2
      simpa [DeclarationPhrase.tokens, isTable] using (table_eq_ok finish).2 ⟨phrase, rfl, rfl⟩
    | enum phrase =>
      have isEnum : startsWith "Enum" (phrase.tokens ++ rest) = true := phrase.keyword.2
      have isNoTable : startsWith "Table" (phrase.tokens ++ rest) = false :=
        Token.isMark_eq_false_of_ne phrase.keyword.2 _ (by decide)
      simpa [DeclarationPhrase.tokens, isEnum, isNoTable] using (enum_eq_ok finish).2
        ⟨phrase, rfl, rfl⟩
    | reference phrase =>
      have isReference : startsWith "Ref" (phrase.tokens ++ rest) = true := phrase.keyword.2
      have isNoTable : startsWith "Table" (phrase.tokens ++ rest) = false :=
        Token.isMark_eq_false_of_ne phrase.keyword.2 _ (by decide)
      have isNoEnum : startsWith "Enum" (phrase.tokens ++ rest) = false :=
        Token.isMark_eq_false_of_ne phrase.keyword.2 _ (by decide)
      simpa [DeclarationPhrase.tokens, isReference, isNoTable, isNoEnum] using
        (reference_eq_ok finish).2 ⟨phrase, rfl, rfl⟩

theorem repeats_declarations (before : List Declaration) (derivation : Derivation) :
    Repeats List.isEmpty DeclarationPhrase.tokens DeclarationPhrase.declaration (fun _ _ _ => True)
      before derivation [] := by
  induction derivation generalizing before with
  | nil => rfl
  | cons phrase more ih =>
    refine ⟨?_, trivial, ih _⟩
    cases phrase <;> rfl

/-- The grammar accepts exactly the token lists of derivations. -/
theorem schema_eq_ok {tokens rest : List Token} {result : List Declaration} :
    schema finish tokens = .ok (result, rest) ↔
      rest = [] ∧ ∃ derivation : Derivation,
        derivation.map DeclarationPhrase.declaration = result ∧ tokens = derivation.tokens := by
  have reads : schema finish tokens = .ok (result, rest) ↔ ∃ derivation : Derivation,
      [] ++ derivation.map DeclarationPhrase.declaration = result ∧
      tokens = derivation.flatMap DeclarationPhrase.tokens ++ rest ∧
      Repeats List.isEmpty DeclarationPhrase.tokens DeclarationPhrase.declaration
      (fun _ _ _ => True)
        [] derivation rest :=
    repeated_eq_ok _ fun _ _ _ _ _ => by simp [declaration_eq_ok]
  rw [reads]
  constructor
  · rintro ⟨derivation, rfl, rfl, repeats⟩
    have isEmpty : rest = [] := by simpa using repeats.stops
    subst isEmpty
    exact ⟨rfl, derivation, by simp, by simp [Derivation.tokens]⟩
  · rintro ⟨rfl, derivation, rfl, rfl⟩
    exact ⟨derivation, by simp, by simp [Derivation.tokens], repeats_declarations [] derivation⟩

end Grammar

end Schemagram.Strict
