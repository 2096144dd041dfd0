import Schemagram.Proofs.Strict.Prompt

/-!
# Every rule fails at the first token at fault

The rules of the strict grammar are prompt, with the phrases of their nonterminals for their
languages.  A rule that peeks at the next token is read as a choice by it.  Whether a line of a
table is a note takes two tokens to tell, so that a line is a choice by its keyword and then by the
colon.
-/

namespace Schemagram.Strict

namespace Grammar

open Rule

open Text (isDigit)

/-- One token in its place. -/
def placed (place : Token → Prop) : Language Token :=
  Set.range fun token : {token // place token} => [token.1]

/-- A text that a mark can have: letters and digits, or one character of punctuation. -/
def isMarkText (text : String) : Bool :=
  match text.toList with
  | [] => false
  | char :: rest => (char :: rest).all Text.isWord || rest.isEmpty && Lexeme.isPunctuation char

theorem exists_isMark {text : String} (isText : isMarkText text = true) :
    ∃ token : Token, token.isMark text = true := by
  unfold isMarkText at isText
  split at isText
  · cases isText
  · rename_i char rest chars
    rcases Bool.or_eq_true_iff.1 isText with inWord | single
    · have isWord : Token.Form .word text.toList :=
        .word (by simp [chars]) (by rw [chars]; exact List.all_eq_true.1 inWord)
      exact ⟨⟨.word, text, 0, isWord⟩, by simp [Token.isMark]⟩
    · simp only [Bool.and_eq_true, List.isEmpty_iff] at single
      have isPunctuation : Token.Form .punctuation text.toList := by
        rw [chars, single.1]
        exact .punctuation single.2
      exact ⟨⟨.punctuation, text, 0, isPunctuation⟩, by simp [Token.isMark]⟩

/-- A mark that leads from a place that may be between parentheses to one that may be so too, and
that no zero can take the place of. -/
def isLead (start stop : Bool) (text : String) : Bool :=
  isMarkText text && (text = "(" || start && text ≠ ")") = stop &&
    (!start || text.toList.any (fun char => !Text.isWord char))

variable (finish other : Nat) {start stop : Bool}

/-! ### Single tokens -/

theorem nextIf_of_refused {accepts : Token → Bool} (wanted : Wanted) {token : Token}
    (rest : List Token) (refused : ¬accepts token = true) :
    nextIf finish accepts wanted (token :: rest) =
      .error ⟨.expected wanted token.text, token.position⟩ := by
  change (if accepts token = true then pure token else throw _ : Rule Token) rest = _
  rw [if_neg refused]
  rfl

theorem prompt_nextIf {accepts : Token → Bool} {place : Token → Prop} {agree : Token → Token → Prop}
    (wanted : Wanted) (exists_accepted : ∃ token, accepts token = true)
    (withZero : ∀ token, accepts (token.withZero start) = accepts token)
    (leads : ∀ token, accepts token = true → token.isInsideBehind start = stop)
    (isPlace : ∀ token, accepts token = true → place (token.withZero start))
    (agrees : ∀ token, accepts token = true → agree token (token.withZero start)) :
    Prompt finish start stop (fun _ => placed place) agree (nextIf finish accepts wanted)
      (nextIf other accepts wanted) := by
  have written (token : Token) (accepted : accepts token = true) :
      IsWritten start stop (placed place) [token] :=
    ⟨leads token accepted, ⟨token.withZero start, isPlace token accepted⟩, rfl⟩
  rcases exists_accepted with ⟨sample, isSample⟩
  refine ⟨⟨sample, _, [sample], agrees sample isSample, written sample isSample⟩, ?_, ?_⟩
  · intro tokens token rest read
    rcases (nextIf_eq_ok finish).1 read with ⟨rfl, accepted⟩
    refine ⟨token.withZero start, agrees token accepted, [token], rfl, written token accepted,
      fun others _ => ?_⟩
    exact (nextIf_eq_ok other).2 ⟨rfl, by rwa [withZero]⟩
  · intro tokens mismatch failed
    cases tokens with
    | nil =>
      cases failed
      refine ⟨[], [], rfl, .unexpectedEnd,
        fun _ => ⟨⟨sample, [sample], written sample isSample⟩, ?_⟩⟩
      intro others sameFront
      have ended : others = [] := by simpa [Mismatch.Cause.reach] using sameFront
      rw [ended]
      exact ⟨_, rfl⟩
    | cons token rest =>
      by_cases accepted : accepts token = true
      · rw [(nextIf_eq_ok finish).2 ⟨rfl, accepted⟩] at failed
        cases failed
      · rw [nextIf_of_refused finish wanted rest accepted] at failed
        cases failed
        refine ⟨[], token :: rest, rfl, .expected wanted token rest,
          fun _ => ⟨⟨sample, [sample], written sample isSample⟩, ?_⟩⟩
        intro others sameFront
        have sameHead := head?_eq_of_take_eq (Mismatch.Cause.reach_pos _) sameFront
        rcases List.head?_eq_some_iff.1 sameHead with ⟨more, rfl⟩
        refine ⟨_, nextIf_of_refused other wanted more ?_⟩
        rw [insideBehind, List.foldl_nil, withZero]
        exact accepted

theorem prompt_mark {text : String} (lead : isLead start stop text = true) :
    Prompt finish start stop (fun _ => placed (·.isMark text = true)) Any (mark finish text)
    (mark other text) := by
  simp only [isLead, Bool.and_eq_true, Bool.or_eq_true, Bool.not_eq_true',
    decide_eq_true_eq] at lead
  rcases lead with ⟨⟨isText, behind⟩, clear⟩
  refine prompt_nextIf finish other _ (exists_isMark isText) (Token.isMark_withZero clear) ?_ ?_
    fun _ _ => trivial
  · intro token isMark
    rw [Token.isInsideBehind_of_isMark isMark, behind]
  · intro token isMark
    rwa [Token.isMark_withZero clear]

theorem prompt_wordIn (inside : Bool) {place : Token → Prop} {agree : String → String → Prop}
    (isPlace : ∀ token : Token, token.kind = .word → place (token.withZero inside))
    (agrees : ∀ token : Token, token.kind = .word → agree token.text (token.withZero inside).text) :
    Prompt finish inside inside (fun _ => placed place) agree (word finish) (word other) := by
  have token : Prompt finish inside inside (fun _ => placed place)
      (fun token other => agree token.text other.text)
      (nextIf finish (·.kind = .word) .word) (nextIf other (·.kind = .word) .word) := by
    refine prompt_nextIf finish other _ ⟨.zero 0, rfl⟩ ?_ ?_ ?_ ?_ <;> intro token
    · rw [Token.kind_withZero]
    · intro isWord
      exact Token.isInsideBehind_eq_self (by simp [of_decide_eq_true isWord]) inside
    · intro isWord
      exact isPlace token (of_decide_eq_true isWord)
    · intro isWord
      exact agrees token (of_decide_eq_true isWord)
  exact (token.bind fun _ _ same => prompt_pure finish inside (fun _ => 1) rfl same).mono
    (fun _ => (mul_one _).le) fun _ _ same => same

theorem prompt_word :
    Prompt finish false false (fun _ => placed (·.kind = .word)) Any (word finish) (word other) :=
  prompt_wordIn finish other false (fun _ isWord => isWord) fun _ _ => trivial

/-- Any word will do for a size, where the other run reads a zero. -/
theorem prompt_size :
    Prompt finish true true
      (fun _ => placed fun token => token.kind = .word ∧ ∀ char ∈ token.text.toList,
        isDigit char = true)
      (fun _ size => isNumber size = true) (word finish) (word other) := by
  have isZero (token : Token) (isWord : token.kind = .word) : (token.withZero true).text = "0" := by
    rw [Token.withZero, if_pos (by simp [isWord])]
    rfl
  refine prompt_wordIn finish other true (fun token isWord => ⟨?_, ?_⟩) fun token isWord => ?_
  · rw [Token.kind_withZero, isWord]
  · rw [isZero token isWord]
    decide
  · rw [isZero token isWord]
    decide

theorem prompt_string :
    Prompt finish false false (fun _ => placed (·.kind = .string)) Any (string finish)
    (string other) := by
  have token : Prompt finish false false (fun _ => placed (·.kind = .string)) Any
      (nextIf finish (·.kind = .string) .string) (nextIf other (·.kind = .string) .string) := by
    have empty : Token.Form .string "''".toList := .string (.inr rfl) (List.forall_mem_nil _)
    refine prompt_nextIf finish other _ ⟨⟨.string, "''", 0, empty⟩, rfl⟩ (fun _ => rfl) ?_
      (fun _ => of_decide_eq_true) fun _ _ => trivial
    intro token isString
    exact Token.isInsideBehind_eq_self (by simp [of_decide_eq_true isString]) false
  exact (token.bind fun _ _ _ => prompt_pure finish false (fun _ => 1) rfl trivial).mono
    (fun _ => (mul_one _).le) fun _ _ agrees => agrees

/-- A rule that takes no token refuses the first one or the end. -/
theorem prompt_refuse {Part : Type} {spells : Part → Language Token} {agree : Part → Part → Prop}
    {cause : Token → Mismatch.Cause}
    (possible : ∃ part otherPart tokens, agree part otherPart ∧
      IsWritten start stop (spells part) tokens)
    (arises : ∀ token rest,
      Mismatch.Arises finish [] (token :: rest) ⟨cause token, token.position⟩) :
    Prompt finish start stop spells agree
    (next finish >>= fun token => throw ⟨cause token, token.position⟩)
      (next other >>= fun token => throw ⟨cause token, token.position⟩) := by
  have refuses (others : List Token) : ∃ mismatch, (next other >>= fun token =>
      (throw ⟨cause token, token.position⟩ : Rule Part)) others = .error mismatch := by
    cases others <;> exact ⟨_, rfl⟩
  have writable : ∃ part more, IsWritten start stop (spells part) ([] ++ more) := by
    rcases possible with ⟨part, _, tokens, _, written⟩
    exact ⟨part, tokens, written⟩
  refine ⟨possible, ?_, ?_⟩
  · intro tokens part rest read
    cases tokens <;> cases read
  · intro tokens mismatch failed
    cases tokens with
    | nil =>
      cases failed
      exact ⟨[], [], rfl, .unexpectedEnd, fun _ => ⟨writable, fun others _ => refuses others⟩⟩
    | cons token rest =>
      cases failed
      exact ⟨[], token :: rest, rfl, arises token rest,
        fun _ => ⟨writable, fun others _ => refuses others⟩⟩

/-- Nothing depends on the result of a rule at its end. -/
theorem prompt_return {Part : Type} {part otherPart : Part} :
    Prompt finish start start (fun _ => 1) Any (pure part) (pure otherPart) :=
  prompt_pure finish start _ rfl trivial

/-! ### Paths, arrows and types -/

theorem prompt_path :
    Prompt finish false false (fun _ => Set.range PathPhrase.tokens) Any (path finish)
    (path other) := by
  refine ((prompt_word finish other).bind fun _ _ _ =>
    (prompt_mark finish other (by decide)).bind fun _ _ _ =>
      (prompt_word finish other).bind fun _ _ _ => prompt_return finish).weaken ?_
  rintro _ _ ⟨_, ⟨table, rfl⟩, _, ⟨_, ⟨dot, rfl⟩, _, ⟨_, ⟨column, rfl⟩, _, rfl, rfl⟩, rfl⟩, rfl⟩
  exact ⟨⟨table, dot, column⟩, rfl⟩

theorem prompt_arrow :
    Prompt finish false false (fun _ => Set.range fun arrow : ArrowPhrase => [arrow.token]) Any
    (arrow finish)
      (arrow other) := by
  have isArrow (token : Token) (accepted : (token.text = "<" || token.text = ">") = true) :
      token.isMark "<" = true ∨ token.isMark ">" = true := by
    rw [Bool.or_eq_true, decide_eq_true_eq, decide_eq_true_eq] at accepted
    exact accepted.imp (Token.isMark_of_text_eq · (by decide))
      (Token.isMark_of_text_eq · (by decide))
  have token : Prompt finish false false
      (fun _ => placed fun token => token.isMark "<" = true ∨ token.isMark ">" = true) Any
      (nextIf finish (fun token => token.text = "<" || token.text = ">") .arrow)
      (nextIf other (fun token => token.text = "<" || token.text = ">") .arrow) := by
    refine prompt_nextIf finish other _ ?_ (fun _ => rfl) ?_ isArrow fun _ _ => trivial
    · rcases exists_isMark (by decide : isMarkText "<" = true) with ⟨token, isLeft⟩
      exact ⟨token, by simp [Token.text_of_isMark isLeft]⟩
    · intro token accepted
      rcases isArrow token accepted with isLeft | isRight
      · exact Token.isInsideBehind_of_isMark isLeft false
      · exact Token.isInsideBehind_of_isMark isRight false
  refine (token.bind fun _ _ _ => prompt_return finish).weaken ?_
  rintro _ _ ⟨_, ⟨⟨token, isLeft | isRight⟩, rfl⟩, _, rfl, rfl⟩
  · exact ⟨.left ⟨token, isLeft⟩, rfl⟩
  · exact ⟨.right ⟨token, isRight⟩, rfl⟩

theorem isNext_bind {Part : Type} (text : String) (more : Bool → Rule Part) :
    (isNext text >>= more) = choose text (more true) (more false) := by
  funext tokens
  change more (startsWith text tokens) tokens = if startsWith text tokens = true then _ else _
  cases startsWith text tokens <;> rfl

theorem choose_cons {Part : Type} (text : String) (yes no : Rule Part) (token : Token)
    (rest : List Token) :
    choose text yes no (token :: rest) =
      if token.isMark text = true then yes (token :: rest) else no (token :: rest) := rfl

/-- A token that has been peeked at is taken as the mark that it is. -/
theorem choose_next_bind {Part : Type} (text : String) (more : Token → Rule Part) (no : Rule Part) :
    choose text (next finish >>= more) no = choose text (mark finish text >>= more) no := by
  funext tokens
  unfold choose
  split
  · rename_i follows
    cases tokens with
    | nil => cases follows
    | cons token rest =>
      rw [bind_of_ok ((mark_eq_ok finish).2 ⟨⟨token, follows⟩, rfl, rfl⟩),
        bind_of_ok ((next_eq_ok finish).2 rfl)]
  · rfl

theorem prompt_secondSize :
    Prompt finish true true
      (fun _ => Set.range fun second? : Option (Mark "," × Number) =>
        second?.elim [] fun second => [second.1.1, second.2.1])
      (fun _ sizes => ∀ size ∈ sizes, isNumber size = true) (secondSize finish)
      (secondSize other) := by
  simp only [secondSize, isNext_bind, if_true, Bool.false_eq_true, if_false, choose_next_bind]
  refine .choose (.inr (by decide)) ?_ (prompt_pure finish true _ ⟨none, rfl⟩ (by simp))
  refine ((prompt_mark finish other (by decide)).bind fun _ _ _ =>
    (prompt_size finish other).bind fun _ _ isNumber =>
      prompt_pure finish true (fun _ => 1) rfl (by simpa using isNumber)).mono ?_
        fun _ _ agrees => agrees
  rintro _ _ ⟨_, ⟨comma, rfl⟩, _, ⟨_, ⟨size, rfl⟩, _, rfl, rfl⟩, rfl⟩
  exact ⟨some (comma, size), rfl⟩

/-- Reads sizes, be they numbers or not, with the closing parenthesis. -/
def uncheckedSizes : Rule (List String × Token) := do
  let _ ← mark finish "("
  let first ← word finish
  let second ← secondSize finish
  let close ← mark finish ")"
  return (first :: second, close)

/-- The number check. -/
def checkSizes (base : String) (read : List String × Token) : Rule (List String) :=
  match read.1.find? (!isNumber ·) with
  | some size => throw ⟨.expectedNumber base size, read.2.position⟩
  | none => return read.1

theorem sizes_eq (base : String) :
    sizes finish base = uncheckedSizes finish >>= checkSizes base := by
  simp only [sizes, uncheckedSizes, bind_assoc, pure_bind]
  rfl

theorem prompt_uncheckedSizes :
    Prompt finish false false (fun _ => Set.range SizesPhrase.tokens)
      (fun _ read => ∀ size ∈ read.1, isNumber size = true) (uncheckedSizes finish)
      (uncheckedSizes other) := by
  refine ((prompt_mark finish other (by decide)).bind fun _ _ _ =>
    (prompt_size finish other).bind fun _ _ first =>
      (prompt_secondSize finish other).bind fun _ _ second =>
      (prompt_mark finish other (by decide)).bind fun _ _ _ =>
        prompt_pure finish false (fun _ => 1) rfl (by simpa using ⟨first, second⟩)).mono ?_
          fun _ _ agrees => agrees
  rintro _ _ ⟨_, ⟨opening, rfl⟩, _,
    ⟨_, ⟨first, rfl⟩, _, ⟨_, ⟨second?, rfl⟩, _, ⟨_, ⟨closing, rfl⟩, _, rfl, rfl⟩, rfl⟩,
    rfl⟩, rfl⟩
  exact ⟨⟨opening, first, second?, closing⟩, rfl⟩

theorem checkSizes_eq_ok {base : String} {read : List String × Token} {texts : List String}
    {tokens rest : List Token} :
    checkSizes base read tokens = .ok (texts, rest) ↔
      (∀ size ∈ read.1, isNumber size = true) ∧ read.1 = texts ∧ tokens = rest := by
  unfold checkSizes
  cases found : read.1.find? (!isNumber ·) with
  | some size =>
    simp only [throw_eq_ok, false_iff, not_and]
    intro areNumbers
    have isNoNumber := List.find?_some found
    simp [areNumbers size (List.mem_of_find?_eq_some found)] at isNoNumber
  | none =>
    have areNumbers : ∀ size ∈ read.1, isNumber size = true := by simpa using found
    simp only [pure_eq_ok]
    exact ⟨fun same => ⟨areNumbers, same⟩, And.right⟩

/-- A size that is no number has been taken before the closing parenthesis at which it is
reported. -/
theorem checkSizes_eq_error {base : String} {read : List String × Token} {after tokens : List Token}
    {mismatch : Mismatch} (isRead : uncheckedSizes finish tokens = .ok (read, after))
    (failed : checkSizes base read after = .error mismatch) :
    mismatch.cause.isNumberCheck = true ∧
      ∃ taken rest, tokens = taken ++ rest ∧ mismatch.Arises finish taken rest := by
  simp only [uncheckedSizes, bind_eq_ok, mark_eq_ok, word_eq_ok, secondSize_eq_ok,
    pure_eq_ok] at isRead
  rcases isRead with
    ⟨_, _, ⟨opening, rfl, rfl⟩, _, _, ⟨first, rfl, rfl⟩, _, _, ⟨second?, rfl, rfl, _⟩, _, rest,
    ⟨closing, rfl, rfl⟩, rfl, rfl⟩
  unfold checkSizes at failed
  cases found : List.find? (!isNumber ·)
    (first.1.text :: second?.elim [] fun second => [second.2.1.text]) with
  | none =>
    rw [found] at failed
    cases failed
  | some size =>
    rw [found] at failed
    cases failed
    have isSize : ∃ token ∈ first.1 :: second?.elim [] (fun second => [second.1.1, second.2.1]),
        token.kind = .word ∧ token.text = size := by
      rcases List.mem_cons.1 (List.mem_of_find?_eq_some found) with rfl | isSecond
      · exact ⟨first.1, List.mem_cons_self, first.2, rfl⟩
      · rcases second? with _ | ⟨comma, second⟩
        · cases isSecond
        · exact ⟨second.1, by simp, second.2, (List.mem_singleton.1 isSecond).symm⟩
    rcases isSize with ⟨token, mem, isWord, rfl⟩
    exact ⟨rfl, opening.1 :: first.1 :: second?.elim [] (fun second => [second.1.1, second.2.1]),
      closing.1 :: rest, by simp,
      .expectedNumber base rest (List.mem_cons_of_mem _ mem) isWord closing.2⟩

theorem prompt_sizes (base otherBase : String) :
    Prompt finish false false (fun _ => Set.range SizesPhrase.tokens) Any (sizes finish base)
      (sizes other otherBase) := by
  have unchecked := prompt_uncheckedSizes finish other
  rw [sizes_eq, sizes_eq]
  refine ⟨?_, ?_, ?_⟩
  · rcases unchecked.possible with ⟨_, _, tokens, _, written⟩
    exact ⟨[], [], tokens, trivial, written⟩
  · intro tokens texts rest read
    rcases bind_eq_ok.1 read with ⟨found, after, isRead, isChecked⟩
    rcases checkSizes_eq_ok.1 isChecked with ⟨_, _, rfl⟩
    rcases unchecked.passes isRead with ⟨otherFound, areNumbers, taken, split, written, again⟩
    refine ⟨otherFound.1, trivial, taken, split, written, fun others sameHead => ?_⟩
    exact bind_eq_ok.2 ⟨_, _, again others sameHead, checkSizes_eq_ok.2 ⟨areNumbers, rfl, rfl⟩⟩
  · intro tokens mismatch failed
    rcases bind_eq_error.1 failed with failed | ⟨found, after, isRead, failed⟩
    · exact (unchecked.fails failed).weaken (fun _ => ⟨[], le_refl _⟩) fun _ found _ otherFailed =>
        ⟨found, bind_eq_error.2 (.inl otherFailed)⟩
    · rcases checkSizes_eq_error finish isRead failed with
        ⟨isNumberCheck, taken, rest, split, arises⟩
      refine ⟨taken, rest, split, arises, fun notNumber => ?_⟩
      rw [isNumberCheck] at notNumber
      cases notNumber

theorem prompt_columnType :
    Prompt finish false false (fun _ => Set.range TypePhrase.tokens) Any (columnType finish)
    (columnType other) := by
  simp only [columnType, isNext_bind, if_true, Bool.false_eq_true, if_false]
  have sizes (base otherBase : String) : Prompt finish false false
      (fun _ => Set.range fun sizes? : Option SizesPhrase => sizes?.elim [] SizesPhrase.tokens) Any
      (choose "(" (sizes finish base >>= fun texts => pure (ColumnType.mk base texts))
        (pure ⟨base, []⟩))
      (choose "(" (sizes other otherBase >>= fun texts => pure (ColumnType.mk otherBase texts))
        (pure ⟨otherBase, []⟩)) := by
    refine .choose (.inl rfl) ?_ (prompt_pure finish false _ ⟨none, rfl⟩ trivial)
    refine ((prompt_sizes finish other base otherBase).bind fun _ _ _ =>
      prompt_return finish).weaken ?_
    rintro _ _ ⟨_, ⟨sizes, rfl⟩, _, rfl, rfl⟩
    exact ⟨some sizes, (List.append_nil _).symm⟩
  refine ((prompt_word finish other).bind fun base otherBase _ => sizes base otherBase).weaken ?_
  rintro _ _ ⟨_, ⟨base, rfl⟩, _, ⟨sizes?, rfl⟩, rfl⟩
  exact ⟨⟨base, sizes?⟩, rfl⟩

/-! ### Properties and columns -/

theorem property_eq : property finish =
    choose "pk" (mark finish "pk" >>= fun _ => pure .primaryKey)
      (choose "nn" (mark finish "nn" >>= fun _ => pure .notNull)
        (choose "note" (mark finish "note" >>= fun _ => mark finish ":" >>= fun _ =>
          string finish >>= fun text =>
            pure (.note text))
          (choose "ref" (mark finish "ref" >>= fun _ => mark finish ":" >>= fun _ =>
            arrow finish >>= fun direction =>
              path finish >>= fun other => pure (.reference direction other))
            (next finish >>= fun token =>
              throw ⟨.unknownProperty token.text, token.position⟩)))) := by
  simp only [← choose_next_bind]
  funext tokens
  cases tokens with
  | nil => rfl
  | cons token rest =>
    change propertyOf finish token rest = _
    simp only [propertyOf, choose_cons]
    split_ifs <;> rfl

theorem prompt_property :
    Prompt finish false false (fun _ => Set.range PropertyPhrase.tokens) Any (property finish)
    (property other) := by
  have keyword {text : String} (lead : isLead false false text = true) :=
    prompt_mark finish other lead
  have primaryKey : Prompt finish false false (fun _ => Set.range PropertyPhrase.tokens) Any
      (mark finish "pk" >>= fun _ => pure Property.primaryKey)
      (mark other "pk" >>= fun _ => pure Property.primaryKey) := by
    refine ((keyword (by decide)).bind fun _ _ _ => prompt_return finish).weaken ?_
    rintro _ _ ⟨_, ⟨keyword, rfl⟩, _, rfl, rfl⟩
    exact ⟨.primaryKey keyword, rfl⟩
  rw [property_eq, property_eq]
  refine .choose (.inl rfl) primaryKey
    (.choose (.inl rfl) ?_ (.choose (.inl rfl) ?_ (.choose (.inl rfl) ?_
    (prompt_refuse finish other primaryKey.possible fun token rest =>
      .unknownProperty token rest))))
  · refine ((keyword (by decide)).bind fun _ _ _ => prompt_return finish).weaken ?_
    rintro _ _ ⟨_, ⟨keyword, rfl⟩, _, rfl, rfl⟩
    exact ⟨.notNull keyword, rfl⟩
  · refine ((keyword (by decide)).bind fun _ _ _ => (keyword (by decide)).bind fun _ _ _ =>
      (prompt_string finish other).bind fun _ _ _ => prompt_return finish).weaken ?_
    rintro _ _ ⟨_, ⟨keyword, rfl⟩, _, ⟨_, ⟨colon, rfl⟩, _, ⟨_, ⟨text, rfl⟩, _, rfl, rfl⟩, rfl⟩, rfl⟩
    exact ⟨.note keyword colon text, rfl⟩
  · refine ((keyword (by decide)).bind fun _ _ _ => (keyword (by decide)).bind fun _ _ _ =>
      (prompt_arrow finish other).bind fun _ _ _ => (prompt_path finish other).bind fun _ _ _ =>
        prompt_return finish).weaken ?_
    rintro _ _ ⟨_, ⟨keyword, rfl⟩, _,
      ⟨_, ⟨colon, rfl⟩, _, ⟨_, ⟨arrow, rfl⟩, _, ⟨_, ⟨path, rfl⟩, _, rfl, rfl⟩, rfl⟩,
      rfl⟩, rfl⟩
    exact ⟨.reference keyword colon arrow path, by simp [PropertyPhrase.tokens]⟩

theorem prompt_nextProperty :
    Prompt finish false false (fun _ => Set.range PropertyPhrase.tokensAfterComma) Any
    (nextProperty finish)
      (nextProperty other) := by
  refine ((prompt_mark finish other (by decide)).bind fun _ _ _ =>
    prompt_property finish other).weaken ?_
  rintro _ _ ⟨_, ⟨comma, rfl⟩, _, ⟨property, rfl⟩, rfl⟩
  exact ⟨(comma, property), rfl⟩

theorem stops_alike (text : String) {tokens others : List Token}
    (sameHead : others.head? = (withZeros false tokens).head?) :
    startsWith text others = startsWith text tokens := by
  rw [startsWith_eq_of_head?_eq text sameHead, startsWith_withZeros (.inl rfl)]

/-- Phrases one behind the other. -/
theorem prompt_phrases {Part Phrase : Type} {stops : List Token → Bool} {each otherEach : Rule Part}
    {takes : ∀ _ : List Part, each.Takes} {otherTakes : ∀ _ : List Part, otherEach.Takes}
    {tokensOf : Phrase → List Token}
    (stopsAlike : ∀ tokens others, others.head? = (withZeros false tokens).head? →
      stops others = stops tokens)
    (prompt : Prompt finish false false (fun _ => Set.range tokensOf) Any each otherEach)
    (before otherBefore : List Part) :
    Prompt finish false false
    (fun _ => Set.range fun phrases : List Phrase => phrases.flatMap tokensOf) Any
      (repeated stops (fun _ => each) takes before)
      (repeated stops (fun _ => otherEach) otherTakes otherBefore) := by
  refine prompt_repeated Any (fun _ _ => Set.range tokensOf)
    (fun _ => Set.range fun phrases : List Phrase => phrases.flatMap tokensOf) stopsAlike
    (fun _ _ _ => prompt.mono (fun _ => le_refl _) fun _ _ _ => trivial) (fun _ => ⟨[], rfl⟩) ?_
      before otherBefore
    trivial
  rintro _ _ _ ⟨_, ⟨phrase, rfl⟩, _, ⟨more, rfl⟩, rfl⟩
  exact ⟨phrase :: more, rfl⟩

theorem prompt_properties :
    Prompt finish false false (fun _ => Set.range PropertiesPhrase.tokens) Any (properties finish)
      (properties other) := by
  refine ((prompt_mark finish other (by decide)).bind fun _ _ _ =>
    (prompt_property finish other).bind fun first otherFirst _ =>
      (prompt_phrases finish ?_ (prompt_nextProperty finish other) [first] [otherFirst]).bind
        fun _ _ _ =>
        (prompt_mark finish other (by decide)).bind fun _ _ _ => prompt_return finish).weaken ?_
  · intro tokens others sameHead
    rw [stops_alike "," sameHead]
  · rintro _ _ ⟨_, ⟨opening, rfl⟩, _,
      ⟨_, ⟨first, rfl⟩, _, ⟨_, ⟨more, rfl⟩, _, ⟨_, ⟨closing, rfl⟩, _, rfl, rfl⟩, rfl⟩,
      rfl⟩, rfl⟩
    exact ⟨⟨opening, first, more, closing⟩, by simp [PropertiesPhrase.tokens]⟩

/-- Reads a column behind its name. -/
def columnBehind (name : String) : Rule ColumnDeclaration :=
  columnType finish >>= fun type =>
    choose "[" (properties finish >>= fun found => pure ⟨name, type, found⟩) (pure ⟨name, type, []⟩)

theorem column_eq : column finish = word finish >>= columnBehind finish := by
  simp only [column, isNext_bind, if_true, Bool.false_eq_true, if_false]
  rfl

/-- A column without its name. -/
def columnTail : Language Token :=
  {tokens | ∀ name : Word, ∃ phrase : ColumnPhrase, phrase.tokens = name.1 :: tokens}

theorem prompt_columnBehind (name otherName : String) :
    Prompt finish false false (fun _ => columnTail) Any (columnBehind finish name)
    (columnBehind other otherName) := by
  have properties (type otherType : ColumnType) : Prompt finish false false
      (fun _ => Set.range fun found? : Option PropertiesPhrase =>
        found?.elim [] PropertiesPhrase.tokens) Any
      (choose "[" (properties finish >>= fun found => pure (ColumnDeclaration.mk name type found))
        (pure ⟨name, type, []⟩))
      (choose "[" (properties other >>= fun found =>
        pure (ColumnDeclaration.mk otherName otherType found))
        (pure ⟨otherName, otherType, []⟩)) := by
    refine .choose (.inl rfl) ?_ (prompt_pure finish false _ ⟨none, rfl⟩ trivial)
    refine ((prompt_properties finish other).bind fun _ _ _ => prompt_return finish).weaken ?_
    rintro _ _ ⟨_, ⟨found, rfl⟩, _, rfl, rfl⟩
    exact ⟨some found, (List.append_nil _).symm⟩
  refine ((prompt_columnType finish other).bind fun type otherType _ =>
    properties type otherType).weaken ?_
  rintro _ _ ⟨_, ⟨type, rfl⟩, _, ⟨found?, rfl⟩, rfl⟩ name
  exact ⟨⟨name, type, found?⟩, rfl⟩

theorem prompt_column :
    Prompt finish false false (fun _ => Set.range ColumnPhrase.tokens) Any (column finish)
    (column other) := by
  rw [column_eq, column_eq]
  refine ((prompt_word finish other).bind fun name otherName _ =>
    prompt_columnBehind finish other name otherName).weaken ?_
  rintro _ _ ⟨_, ⟨name, rfl⟩, _, tail, rfl⟩
  exact tail name

/-! ### Lines of a table -/

/-- The lines that read as notes or as columns; in a table that has its note, only columns. -/
def lines (noted : Bool) (entry : TableEntry) : Language Token :=
  {tokens | (noted = true → entry.isNote = false) ∧
    ∃ phrase : EntryPhrase, phrase.note?.isSome = entry.isNote ∧ phrase.tokens = tokens}

/-- Lines that begin with the keyword of a note, without it. -/
def lineTails (noted : Bool) (entry : TableEntry) : Language Token :=
  {tokens | ∀ keyword : Mark "Note", keyword.1 :: tokens ∈ lines noted entry}

/-- Two lines are both notes, or both are columns. -/
def SameKind (entry other : TableEntry) : Prop := entry.isNote = other.isNote

/-- No more tokens behind a line that is a note, or is none. -/
def ended (isNote : Bool) (entry : TableEntry) : Language Token :=
  {tokens | tokens = [] ∧ entry.isNote = isNote}

theorem prompt_ended (isNote : Bool) {entry otherEntry : TableEntry} (kind : entry.isNote = isNote)
    (otherKind : otherEntry.isNote = isNote) :
    Prompt finish false false (ended isNote) SameKind (pure entry) (pure otherEntry) :=
  prompt_pure finish false _ ⟨rfl, kind⟩ (kind.trans otherKind.symm)

/-- Reads a line of a table, with a rule for what follows the keyword of a note if that is a
colon. -/
def line (note : Rule TableEntry) : Rule TableEntry :=
  choose "Note"
    (mark finish "Note" >>= fun keyword =>
      choose ":" note (columnBehind finish keyword.text >>= fun found => pure (.column found)))
    (column finish >>= fun found => pure (.column found))

/-- The keyword of a note may be the name of a column. -/
theorem kind_of_note (keyword : Mark "Note") : keyword.1.kind = .word := by
  cases isKind : keyword.1.kind with
  | word => rfl
  | string =>
    have isNote := keyword.2
    rw [Token.isMark_eq_false_of_string isKind] at isNote
    cases isNote
  | punctuation =>
    have form := keyword.1.form
    rw [isKind, Token.text_of_isMark keyword.2] at form
    generalize chars : "Note".toList = text at form
    cases form with
    | punctuation isMark =>
      have single := congrArg List.length chars
      simp at single

theorem prompt_columnLine {noted : Bool} (name otherName : String) :
    Prompt finish false false (lineTails noted) SameKind
      (columnBehind finish name >>= fun found => pure (TableEntry.column found))
      (columnBehind other otherName >>= fun found => pure (TableEntry.column found)) := by
  refine ((prompt_columnBehind finish other name otherName).bind fun _ _ _ =>
    prompt_ended finish false rfl rfl).mono ?_ fun _ _ same => same
  rintro entry _ ⟨tokens, tail, _, ⟨rfl, isColumn⟩, rfl⟩ keyword
  rcases tail ⟨keyword.1, kind_of_note keyword⟩ with ⟨phrase, same⟩
  refine ⟨fun _ => isColumn, .column phrase, isColumn.symm, ?_⟩
  exact same.trans (congrArg (keyword.1 :: ·) (List.append_nil tokens).symm)

theorem prompt_line {noted : Bool} {note otherNote : Rule TableEntry}
    (prompt : Prompt finish false false (lineTails noted) SameKind note otherNote) :
    Prompt finish false false (lines noted) SameKind (line finish note) (line other otherNote) := by
  refine .choose (.inl rfl) ?_ ?_
  · refine ((prompt_mark finish other (by decide)).bind fun _ _ _ =>
      .choose (.inl rfl) prompt (prompt_columnLine finish other _ _)).mono ?_ fun _ _ same => same
    rintro entry _ ⟨_, ⟨keyword, rfl⟩, _, tail, rfl⟩
    exact tail keyword
  · refine ((prompt_column finish other).bind fun _ _ _ =>
      prompt_ended finish false rfl rfl).mono ?_ fun _ _ same => same
    rintro entry _ ⟨_, ⟨phrase, rfl⟩, _, ⟨rfl, isColumn⟩, rfl⟩
    exact ⟨fun _ => isColumn, .column phrase, isColumn.symm, (List.append_nil _).symm⟩

/-- Reads a note behind its keyword. -/
def noteBehind : Rule TableEntry :=
  mark finish ":" >>= fun _ => string finish >>= fun text => pure (.note text)

/-- Refuses a token behind the keyword of a note. -/
def noNote : Rule TableEntry :=
  next finish >>= fun token => throw ⟨.expected .word token.text, token.position⟩

theorem prompt_noteBehind :
    Prompt finish false false (lineTails false) SameKind (noteBehind finish)
    (noteBehind other) := by
  refine ((prompt_mark finish other (by decide)).bind fun _ _ _ =>
    (prompt_string finish other).bind fun _ _ _ =>
      prompt_ended finish true rfl rfl).mono ?_ fun _ _ same => same
  rintro entry _ ⟨_, ⟨colon, rfl⟩, _, ⟨_, ⟨text, rfl⟩, _, ⟨rfl, isNote⟩, rfl⟩, rfl⟩ keyword
  exact ⟨by simp, .note ⟨keyword, colon, text⟩, isNote.symm, rfl⟩

theorem prompt_noNote :
    Prompt finish false false (lineTails true) SameKind (noNote finish) (noNote other) :=
  prompt_refuse finish other (prompt_columnLine finish other "" "").possible
    fun token rest => .expected .word token rest

/-- Without a colon behind the keyword, a line is a column. -/
theorem line_of_not_noteFollows {tokens : List Token} (isColumn : noteFollows tokens = false)
    (note : Rule TableEntry) :
    line finish note tokens = (.column <$> column finish) tokens := by
  rw [map_eq_pure_bind]
  unfold line choose
  split
  · rename_i follows
    cases tokens with
    | nil => cases follows
    | cons keyword rest =>
      have isNote : keyword.isMark "Note" = true := follows
      have noColon : startsWith ":" rest = false := by
        cases rest with
        | nil => rfl
        | cons colon more =>
          change colon.isMark ":" = false
          simpa [noteFollows, isNote] using isColumn
      have named : word finish (keyword :: rest) = .ok (keyword.text, rest) :=
        (word_eq_ok finish).2 ⟨⟨keyword, kind_of_note ⟨keyword, isNote⟩⟩, rfl, rfl⟩
      rw [bind_of_ok ((mark_eq_ok finish).2 ⟨⟨keyword, isNote⟩, rfl, rfl⟩),
        if_neg (by simp [noColon]), column_eq, bind_assoc, bind_of_ok named]
  · rfl

/-- With a colon behind the keyword, the rule for a note goes on. -/
theorem line_of_noteFollows {keyword colon : Token} {rest : List Token}
    (isNote : noteFollows (keyword :: colon :: rest) = true) (note : Rule TableEntry) :
    line finish note (keyword :: colon :: rest) = note (colon :: rest) := by
  simp only [noteFollows, Bool.and_eq_true] at isNote
  rw [line, choose_cons, if_pos isNote.1,
    bind_of_ok ((mark_eq_ok finish).2 ⟨⟨keyword, isNote.1⟩, rfl, rfl⟩),
    choose_cons, if_pos isNote.2]

theorem exists_of_noteFollows {tokens : List Token} (isNote : noteFollows tokens = true) :
    ∃ keyword colon rest, tokens = keyword :: colon :: rest := by
  match tokens with
  | [] => cases isNote
  | [_] => cases isNote
  | keyword :: colon :: rest => exact ⟨keyword, colon, rest, rfl⟩

theorem entry_eq_line {before : List TableEntry} (unnoted : before.any TableEntry.isNote = false) :
    entry finish before = line finish (noteBehind finish) := by
  funext tokens
  unfold entry
  cases follows : noteFollows tokens with
  | false => exact (line_of_not_noteFollows finish follows _).symm
  | true =>
    rcases exists_of_noteFollows follows with ⟨keyword, colon, rest, rfl⟩
    rw [line_of_noteFollows finish follows, if_pos rfl, note,
      bind_of_ok ((next_eq_ok finish).2 rfl), unnoted]
    rfl

/-- In a table that has its note, a further one is refused as a whole. -/
theorem entry_of_noted {before : List TableEntry} (noted : before.any TableEntry.isNote = true)
    {keyword colon : Token} {rest : List Token}
    (isNote : noteFollows (keyword :: colon :: rest) = true) :
    entry finish before (keyword :: colon :: rest) = .error ⟨.noteTwice, keyword.position⟩ := by
  rw [entry, if_pos isNote, note, bind_of_ok ((next_eq_ok finish).2 rfl), if_pos noted]
  rfl

theorem entry_of_not_noteFollows {tokens : List Token} (isColumn : noteFollows tokens = false)
    (before : List TableEntry) (note : Rule TableEntry) :
    entry finish before tokens = line finish note tokens := by
  rw [line_of_not_noteFollows finish isColumn, entry, if_neg (by simp [isColumn])]

theorem entry_eq_ok_of_noted {before : List TableEntry}
    (noted : before.any TableEntry.isNote = true) {tokens : List Token}
    {read : TableEntry × List Token} :
    entry finish before tokens = .ok read ↔ line finish (noNote finish) tokens = .ok read := by
  cases follows : noteFollows tokens with
  | false => rw [entry_of_not_noteFollows finish follows before (noNote finish)]
  | true =>
    rcases exists_of_noteFollows follows with ⟨keyword, colon, rest, rfl⟩
    rw [entry_of_noted finish noted follows, line_of_noteFollows finish follows]
    constructor <;> rintro ⟨⟩

theorem entry_eq_error_of_noted {before : List TableEntry}
    (noted : before.any TableEntry.isNote = true) {tokens : List Token} {mismatch : Mismatch}
    (failed : line finish (noNote finish) tokens = .error mismatch) :
    ∃ found, entry finish before tokens = .error found := by
  cases read : entry finish before tokens with
  | error found => exact ⟨found, rfl⟩
  | ok result =>
    rw [(entry_eq_ok_of_noted finish noted).1 read] at failed
    cases failed

/-- A second note is at fault with its colon, before which its keyword could be the name of a
column. -/
theorem refuses_secondNote {otherBefore : List TableEntry} {keyword colon : Token}
    {rest : List Token} (otherNoted : otherBefore.any TableEntry.isNote = true)
    (isNote : noteFollows (keyword :: colon :: rest) = true) :
    Refuses finish false false (lines true) (entry other otherBefore) (keyword :: colon :: rest)
      ⟨.noteTwice, keyword.position⟩ := by
  have isKeyword : keyword.isMark "Note" = true := (Bool.and_eq_true_iff.1 isNote).1
  refine ⟨[], keyword :: colon :: rest, rfl, .noteTwice colon rest isKeyword,
    fun _ => ⟨?_, fun others sameFront => ?_⟩⟩
  · rcases (prompt_line finish other (prompt_noNote finish other)).possible with
      ⟨part, _, more, _, written⟩
    exact ⟨part, more, written⟩
  · rcases others with _ | ⟨first, _ | ⟨second, more⟩⟩
    · simp [Mismatch.Cause.reach] at sameFront
    · simp [Mismatch.Cause.reach] at sameFront
    · simp only [Mismatch.Cause.reach, withZeros_cons, List.take_succ_cons, List.take_zero,
        List.cons.injEq, and_true, insideBehind, List.foldl_nil, Token.withZero_false] at sameFront
      rcases sameFront with ⟨rfl, rfl⟩
      have sameColon : (colon.withZero (first.isInsideBehind false)).isMark ":" =
          colon.isMark ":" :=
        Token.isMark_withZero (.inr (by decide)) colon
      have otherFollows :
          noteFollows (first :: colon.withZero (first.isInsideBehind false) :: more) = true := by
        rw [noteFollows, sameColon]
        exact isNote
      exact ⟨_, entry_of_noted other otherNoted otherFollows⟩

theorem prompt_entry {before otherBefore : List TableEntry}
    (same : before.any TableEntry.isNote = otherBefore.any TableEntry.isNote) :
    Prompt finish false false (lines (before.any TableEntry.isNote)) SameKind (entry finish before)
      (entry other otherBefore) := by
  cases noted : before.any TableEntry.isNote with
  | false =>
    rw [noted] at same
    rw [entry_eq_line finish noted, entry_eq_line other same.symm]
    exact prompt_line finish other (prompt_noteBehind finish other)
  | true =>
    rw [noted] at same
    have prompt := prompt_line finish other (prompt_noNote finish other)
    refine ⟨prompt.possible, fun tokens part rest read => ?_, fun tokens mismatch failed => ?_⟩
    · rcases prompt.passes ((entry_eq_ok_of_noted finish noted).1 read) with
        ⟨otherPart, agrees, passes⟩
      exact ⟨otherPart, agrees, passes.mono (le_refl _) fun _ _ _ =>
        (entry_eq_ok_of_noted other same.symm).2⟩
    · cases follows : noteFollows tokens with
      | true =>
        rcases exists_of_noteFollows follows with ⟨keyword, colon, rest, rfl⟩
        rw [entry_of_noted finish noted follows] at failed
        cases failed
        exact refuses_secondNote finish other same.symm follows
      | false =>
        rw [entry_of_not_noteFollows finish follows before (noNote finish)] at failed
        exact (prompt.fails failed).weaken (fun part => ⟨part, le_refl _⟩) fun _ _ _ =>
          entry_eq_error_of_noted other same.symm

/-- Lines of a table of which at most one is a note, or none in a table that has one. -/
def bodies (noted : Bool) : Language Token :=
  {tokens | ∃ entries : List EntryPhrase,
    (entries.filterMap EntryPhrase.note?).length + noted.toNat ≤ 1 ∧
    entries.flatMap EntryPhrase.tokens = tokens}

theorem bodies_grow (noted : Bool) (entry : TableEntry) :
    lines noted entry * bodies (noted || entry.isNote) ≤ bodies noted := by
  rintro _ ⟨_, ⟨onlyColumns, phrase, isNote, rfl⟩, _, ⟨entries, atMostOne, rfl⟩, rfl⟩
  refine ⟨phrase :: entries, ?_, rfl⟩
  cases phrase with
  | note found =>
    have isNote : entry.isNote = true := isNote.symm
    cases noted with
    | true => simp [isNote] at onlyColumns
    | false => simpa [EntryPhrase.note?, isNote] using atMostOne
  | column found =>
    have isColumn : entry.isNote = false := isNote.symm
    have uncounted : (EntryPhrase.column found :: entries).filterMap EntryPhrase.note? =
        entries.filterMap EntryPhrase.note? := rfl
    rwa [isColumn, Bool.or_false, ← uncounted] at atMostOne

theorem prompt_entries :
    Prompt finish false false (fun _ => bodies false) Any
      (repeated (startsWith "\x7d") (entry finish) (takes_entry finish) [])
      (repeated (startsWith "\x7d") (entry other) (takes_entry other) []) := by
  refine prompt_repeated
    (fun before otherBefore => before.any TableEntry.isNote = otherBefore.any TableEntry.isNote)
    (fun before => lines (before.any TableEntry.isNote))
      (fun before => bodies (before.any TableEntry.isNote))
    (fun _ _ => stops_alike "\x7d") ?_ (fun before => ⟨[], ?_, rfl⟩)
      (fun before part => ?_) [] [] rfl
  · intro before otherBefore same
    refine (prompt_entry finish other same).mono (fun _ => le_refl _) fun part otherPart kind => ?_
    rw [List.any_append, List.any_append, same]
    simpa using congrArg _ kind
  · cases before.any TableEntry.isNote <;> decide
  · rw [List.any_append]
    simpa using bodies_grow (before.any TableEntry.isNote) part

theorem prompt_alias? :
    Prompt finish false false
      (fun _ => Set.range fun second? : Option (Mark "as" × Word) =>
        second?.elim [] fun second => [second.1.1, second.2.1]) Any (alias? finish)
        (alias? other) := by
  simp only [alias?, isNext_bind, if_true, Bool.false_eq_true, if_false, choose_next_bind]
  refine .choose (.inl rfl) ?_ (prompt_pure finish false _ ⟨none, rfl⟩ trivial)
  refine ((prompt_mark finish other (by decide)).bind fun _ _ _ =>
    (prompt_word finish other).bind fun _ _ _ => prompt_return finish).weaken ?_
  rintro _ _ ⟨_, ⟨keyword, rfl⟩, _, ⟨_, ⟨name, rfl⟩, _, rfl, rfl⟩, rfl⟩
  exact ⟨some (keyword, name), rfl⟩

theorem prompt_table :
    Prompt finish false false (fun _ => Set.range DeclarationPhrase.tokens) Any (table finish)
    (table other) := by
  refine ((prompt_mark finish other (by decide)).bind fun _ _ _ =>
    (prompt_word finish other).bind fun _ _ _ => (prompt_alias? finish other).bind fun _ _ _ =>
      (prompt_mark finish other (by decide)).bind fun _ _ _ =>
        (prompt_entries finish other).bind fun _ _ _ =>
          (prompt_mark finish other (by decide)).bind fun _ _ _ => prompt_return finish).weaken ?_
  rintro _ _ ⟨_, ⟨keyword, rfl⟩, _, ⟨_, ⟨name, rfl⟩, _, ⟨_, ⟨alias?, rfl⟩, _, ⟨_, ⟨opening, rfl⟩, _,
    ⟨_, ⟨entries, atMostOne, rfl⟩, _, ⟨_, ⟨closing, rfl⟩, _, rfl, rfl⟩, rfl⟩, rfl⟩, rfl⟩, rfl⟩, rfl⟩
  exact ⟨.table ⟨keyword, name, alias?, opening, entries, closing, atMostOne⟩,
    by simp [DeclarationPhrase.tokens, TablePhrase.tokens]⟩

/-! ### Enums and references -/

theorem prompt_optionalComma :
    Prompt finish false false
      (fun _ => Set.range fun comma? : Option (Mark ",") => comma?.elim [] fun comma => [comma.1])
        Any optionalComma
      optionalComma := by
  have choice (end_ : Nat) :
      optionalComma = choose "," (mark end_ "," >>= fun _ => pure ()) (pure ()) := by
    rw [← choose_next_bind]
    funext tokens
    cases tokens with
    | nil => rfl
    | cons token rest =>
      rw [choose_cons]
      change (.ok ((), if token.isMark "," = true then rest else token :: rest) :
        Except Mismatch _) = _
      split_ifs <;> rfl
  rw [choice finish]
  refine .choose (.inl rfl) ?_ (prompt_pure finish false _ ⟨none, rfl⟩ trivial)
  refine ((prompt_mark finish finish (by decide)).bind fun _ _ _ =>
    prompt_return finish).weaken ?_
  rintro _ _ ⟨_, ⟨comma, rfl⟩, _, rfl, rfl⟩
  exact ⟨some comma, rfl⟩

theorem prompt_member :
    Prompt finish false false (fun _ => Set.range MemberPhrase.tokens) Any (member finish)
    (member other) := by
  have isMember (token : Token) (accepted : decide (token.kind ≠ .punctuation) = true) :
      token.kind = .word ∨ token.kind = .string := by
    cases isKind : token.kind <;> simp_all
  have value : Prompt finish false false (fun _ => placed fun token => token.kind = .word ∨
      token.kind = .string) Any
      (nextIf finish (·.kind ≠ .punctuation) .enumValue)
      (nextIf other (·.kind ≠ .punctuation) .enumValue) := by
    refine prompt_nextIf finish other _ ⟨.zero 0, rfl⟩ (fun _ => rfl) ?_ isMember fun _ _ => trivial
    intro token accepted
    exact Token.isInsideBehind_eq_self (of_decide_eq_true accepted) false
  refine (value.bind fun _ _ _ => (prompt_optionalComma finish).bind fun _ _ _ =>
    prompt_return finish).weaken ?_
  rintro _ _ ⟨_, ⟨value, rfl⟩, _, ⟨_, ⟨comma?, rfl⟩, _, rfl, rfl⟩, rfl⟩
  exact ⟨⟨value, comma?⟩, by simp [MemberPhrase.tokens]⟩

theorem prompt_enum :
    Prompt finish false false (fun _ => Set.range DeclarationPhrase.tokens) Any (enum finish)
    (enum other) := by
  refine ((prompt_mark finish other (by decide)).bind fun _ _ _ =>
    (prompt_word finish other).bind fun _ _ _ =>
      (prompt_mark finish other (by decide)).bind fun _ _ _ =>
        (prompt_phrases finish (fun _ _ => stops_alike "\x7d") (prompt_member finish other) []
          []).bind fun _ _ _ =>
          (prompt_mark finish other (by decide)).bind fun _ _ _ => prompt_return finish).weaken ?_
  rintro _ _ ⟨_, ⟨keyword, rfl⟩, _,
    ⟨_, ⟨name, rfl⟩, _, ⟨_, ⟨opening, rfl⟩, _, ⟨_, ⟨members, rfl⟩, _,
    ⟨_, ⟨closing, rfl⟩, _, rfl, rfl⟩, rfl⟩, rfl⟩, rfl⟩, rfl⟩
  exact ⟨.enum ⟨keyword, name, opening, members,
    closing⟩, by simp [DeclarationPhrase.tokens, EnumPhrase.tokens]⟩

theorem prompt_referenceName? :
    Prompt finish false false
      (fun _ => Set.range fun name? : Option Word => name?.elim [] fun name => [name.1]) Any
      (referenceName? finish) (referenceName? other) := by
  simp only [referenceName?, isNext_bind, if_true, Bool.false_eq_true, if_false]
  refine .choose (.inl rfl) (prompt_pure finish false _ ⟨none, rfl⟩ trivial) ?_
  refine ((prompt_word finish other).bind fun _ _ _ => prompt_return finish).weaken ?_
  rintro _ _ ⟨_, ⟨name, rfl⟩, _, rfl, rfl⟩
  exact ⟨some name, rfl⟩

theorem prompt_reference :
    Prompt finish false false (fun _ => Set.range DeclarationPhrase.tokens) Any (reference finish)
      (reference other) := by
  refine ((prompt_mark finish other (by decide)).bind fun _ _ _ =>
    (prompt_referenceName? finish other).bind fun _ _ _ =>
      (prompt_mark finish other (by decide)).bind fun _ _ _ =>
        (prompt_path finish other).bind fun _ _ _ => (prompt_arrow finish other).bind fun _ _ _ =>
          (prompt_path finish other).bind fun _ _ _ => prompt_return finish).weaken ?_
  rintro _ _ ⟨_, ⟨keyword, rfl⟩, _,
    ⟨_, ⟨name?, rfl⟩, _, ⟨_, ⟨colon, rfl⟩, _, ⟨_, ⟨left, rfl⟩, _, ⟨_, ⟨arrow, rfl⟩, _,
    ⟨_, ⟨right, rfl⟩, _, rfl, rfl⟩, rfl⟩, rfl⟩, rfl⟩, rfl⟩, rfl⟩
  exact ⟨.reference ⟨keyword, name?, colon, left, arrow, right⟩,
    by simp [DeclarationPhrase.tokens, ReferencePhrase.tokens]⟩

/-! ### Declarations -/

theorem prompt_declaration :
    Prompt finish false false (fun _ => Set.range DeclarationPhrase.tokens) Any (declaration finish)
      (declaration other) :=
  .choose (.inl rfl) (prompt_table finish other) <| .choose (.inl rfl) (prompt_enum finish other) <|
    .choose (.inl rfl) (prompt_reference finish other) <|
      prompt_refuse finish other (prompt_reference finish other).possible fun token rest =>
        .expected .declaration token rest

theorem prompt_schema :
    Prompt finish false false (fun _ => Set.range Derivation.tokens) Any (schema finish)
    (schema other) := by
  refine prompt_phrases finish (fun tokens others sameHead => ?_)
    (prompt_declaration finish other) [] []
  cases tokens <;> cases others <;> simp_all

end Grammar

end Schemagram.Strict
