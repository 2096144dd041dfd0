import Schemagram.Proofs.Strict.Lexemes
import Schemagram.Strict.Table

/-!
# The grammar reads lexemes

No rule of the strict grammar looks at the place of a token: on two token lists with the same
lexemes it takes equally many tokens and returns the same part, or it fails for the same cause.  So
two texts with the same lexemes declare the same things, however they are laid out.

The lemmas `agrees_…` say so of one rule each.  A rule may differ in its two runs by the tokens that
were taken before, and by the offset of the end of the text.
-/

namespace Schemagram.Strict

namespace Token

variable {token other : Token}

theorem kind_congr (same : token.lexeme = other.lexeme) : token.kind = other.kind :=
  congrArg Prod.fst same

theorem text_congr (same : token.lexeme = other.lexeme) : token.text = other.text :=
  congrArg Prod.snd same

theorem isMark_congr (same : token.lexeme = other.lexeme) (text : String) :
    token.isMark text = other.isMark text := by
  rw [isMark, isMark, kind_congr same, text_congr same]

theorem unquoted_congr (same : token.lexeme = other.lexeme) : token.unquoted = other.unquoted := by
  rw [unquoted, unquoted, text_congr same]

end Token

namespace Rule

variable {Part Other : Type}

/-- Two runs of a rule end alike: with parts that correspond and with the same lexemes left, or with
the same cause of failure. -/
inductive EndAlike (same : Part → Part → Prop) :
    Except Mismatch (Part × List Token) → Except Mismatch (Part × List Token) → Prop where
  | ok {part other : Part} {rest after : List Token} (parts : same part other)
      (lexemes : rest.map Token.lexeme = after.map Token.lexeme) :
      EndAlike same (.ok (part, rest)) (.ok (other, after))
  | error {mismatch other : Mismatch} (cause : mismatch.cause = other.cause) :
      EndAlike same (.error mismatch) (.error other)

/-- Two rules end alike wherever the lexemes are the same. -/
def Agrees (same : Part → Part → Prop) (rule other : Rule Part) : Prop :=
  ∀ ⦃tokens others : List Token⦄, tokens.map Token.lexeme = others.map Token.lexeme →
    EndAlike same (rule tokens) (other others)

variable {same : Part → Part → Prop} {alike : Other → Other → Prop}

theorem agrees_pure {part other : Part} (parts : same part other) :
    Agrees same (pure part) (pure other) :=
  fun _ _ lexemes => .ok parts lexemes

theorem agrees_throw {mismatch other : Mismatch} (cause : mismatch.cause = other.cause) :
    Agrees same (throw mismatch) (throw other) :=
  fun _ _ _ => .error cause

theorem Agrees.bind {rule other : Rule Part} {more otherMore : Part → Rule Other}
    (first : Agrees same rule other)
    (second : ∀ part otherPart, same part otherPart →
      Agrees alike (more part) (otherMore otherPart)) :
    Agrees alike (rule >>= more) (other >>= otherMore) := by
  intro tokens others lexemes
  have ends := first lexemes
  show EndAlike alike (StateT.bind rule more tokens) (StateT.bind other otherMore others)
  unfold StateT.bind
  revert ends
  generalize rule tokens = result
  generalize other others = otherResult
  rintro (⟨parts, left⟩ | cause)
  · exact second _ _ parts left
  · exact .error cause

theorem Agrees.bind_same {rule other : Rule Part} {more otherMore : Part → Rule Other}
    (first : Agrees Eq rule other) (second : ∀ part, Agrees alike (more part) (otherMore part)) :
    Agrees alike (rule >>= more) (other >>= otherMore) := by
  refine first.bind ?_
  rintro part _ rfl
  exact second part

/-- Where single parts are read alike, so are lists of them. -/
theorem agrees_repeated {stops : List Token → Bool} {rule other : List Part → Rule Part}
    {takes : ∀ before, (rule before).Takes} {otherTakes : ∀ before, (other before).Takes}
    (stopsAlike : ∀ ⦃tokens others : List Token⦄,
      tokens.map Token.lexeme = others.map Token.lexeme →
      stops tokens = stops others)
    (each : ∀ before, Agrees Eq (rule before) (other before)) (before : List Part) :
    Agrees Eq (repeated stops rule takes before) (repeated stops other otherTakes before) := by
  intro tokens
  fun_induction repeated stops rule takes before tokens with
  | case1 before tokens stop =>
    intro others lexemes
    rw [repeated, ← stopsAlike lexemes, if_pos stop]
    exact .ok rfl lexemes
  | case2 before tokens goesOn mismatch failed =>
    intro others lexemes
    have ends := each before lexemes
    rw [failed] at ends
    rw [repeated, ← stopsAlike lexemes, if_neg goesOn]
    generalize other before others = result at ends
    cases ends with
    | error cause => exact .error cause
  | case3 before tokens goesOn part after partRead ih =>
    intro others lexemes
    have ends := each before lexemes
    rw [partRead] at ends
    rw [repeated.eq_def stops other, ← stopsAlike lexemes, if_neg goesOn]
    generalize other before others = result at ends
    cases ends with
    | ok parts left =>
      subst parts
      exact ih left

end Rule

namespace Grammar

open Rule

/-! ### What the rules look at -/

theorem isEmpty_congr {tokens others : List Token}
    (lexemes : tokens.map Token.lexeme = others.map Token.lexeme) :
    tokens.isEmpty = others.isEmpty := by
  rw [← List.isEmpty_map (f := Token.lexeme), lexemes, List.isEmpty_map]

theorem startsWith_congr (text : String) {tokens others : List Token}
    (lexemes : tokens.map Token.lexeme = others.map Token.lexeme) :
    startsWith text tokens = startsWith text others := by
  cases tokens <;> cases others
  case nil.nil => rfl
  case cons.cons token rest other after =>
    exact Token.isMark_congr (List.cons.inj lexemes).1 text
  all_goals simp at lexemes

theorem noteFollows_congr {tokens others : List Token}
    (lexemes : tokens.map Token.lexeme = others.map Token.lexeme) :
    noteFollows tokens = noteFollows others := by
  match tokens, others with
  | [], [] | [_], [_] => rfl
  | keyword :: colon :: _, other :: otherColon :: _ =>
    simp only [List.map_cons, List.cons.injEq] at lexemes
    rw [noteFollows, noteFollows, Token.isMark_congr lexemes.1, Token.isMark_congr lexemes.2.1]
  | [], _ :: _ | _ :: _, [] | [_], _ :: _ :: _ | _ :: _ :: _, [_] => simp at lexemes

/-! ### Tokens and small phrases -/

/-- Two tokens that differ at most in their places. -/
def SameLexeme (token other : Token) : Prop := token.lexeme = other.lexeme

theorem agrees_isNext (text : String) : Agrees Eq (isNext text) (isNext text) :=
  fun _ _ lexemes => .ok (startsWith_congr text lexemes) lexemes

theorem agrees_optionalComma : Agrees Eq optionalComma optionalComma := by
  intro tokens others lexemes
  refine .ok rfl ?_
  dsimp only
  rw [startsWith_congr "," lexemes]
  split
  · rw [List.map_drop, List.map_drop, lexemes]
  · exact lexemes

variable (finish other : Nat)

theorem agrees_next : Agrees SameLexeme (next finish) (next other) := by
  intro tokens others lexemes
  cases tokens <;> cases others
  case nil.nil => exact .error rfl
  case cons.cons token rest otherToken after =>
    rcases List.cons.inj lexemes with ⟨same, left⟩
    exact .ok same left
  all_goals simp at lexemes

theorem agrees_nextIf {accepts : Token → Bool} (wanted : Wanted)
    (acceptsAlike : ∀ token other, SameLexeme token other → accepts token = accepts other) :
    Agrees SameLexeme (nextIf finish accepts wanted) (nextIf other accepts wanted) := by
  refine (agrees_next finish other).bind fun token otherToken same => ?_
  rw [acceptsAlike _ _ same]
  split
  · exact agrees_pure same
  · exact agrees_throw (by rw [Token.text_congr same])

theorem agrees_mark (text : String) : Agrees SameLexeme (mark finish text) (mark other text) :=
  agrees_nextIf finish other _ fun _ _ same => Token.isMark_congr same text

theorem agrees_word : Agrees Eq (word finish) (word other) := by
  refine (agrees_nextIf finish other _ fun _ _ same => ?_).bind fun _ _ same => ?_
  · rw [Token.kind_congr same]
  · exact agrees_pure (Token.text_congr same)

theorem agrees_string : Agrees Eq (string finish) (string other) := by
  refine (agrees_nextIf finish other _ fun _ _ same => ?_).bind fun _ _ same => ?_
  · rw [Token.kind_congr same]
  · exact agrees_pure (Token.unquoted_congr same)

theorem agrees_arrow : Agrees Eq (arrow finish) (arrow other) := by
  refine (agrees_nextIf finish other _ fun _ _ same => ?_).bind fun _ _ same => ?_
  · rw [Token.text_congr same]
  · exact agrees_pure (by rw [Token.text_congr same])

theorem agrees_path : Agrees Eq (path finish) (path other) :=
  (agrees_word finish other).bind_same fun _ => (agrees_mark finish other ".").bind fun _ _ _ =>
    (agrees_word finish other).bind_same fun _ => agrees_pure rfl

/-! ### Types and properties -/

theorem agrees_secondSize : Agrees Eq (secondSize finish) (secondSize other) := by
  refine (agrees_isNext ",").bind_same fun comma => ?_
  split
  · exact (agrees_next finish other).bind fun _ _ _ =>
      (agrees_word finish other).bind_same fun _ => agrees_pure rfl
  · exact agrees_pure rfl

theorem agrees_sizes (base : String) : Agrees Eq (sizes finish base) (sizes other base) := by
  refine (agrees_mark finish other "(").bind fun _ _ _ =>
    (agrees_word finish other).bind_same fun _ =>
    (agrees_secondSize finish other).bind_same fun _ =>
      (agrees_mark finish other ")").bind fun _ _ _ => ?_
  split
  · exact agrees_throw rfl
  · exact agrees_pure rfl

theorem agrees_columnType : Agrees Eq (columnType finish) (columnType other) := by
  refine (agrees_word finish other).bind_same fun _ =>
    (agrees_isNext "(").bind_same fun opening => ?_
  split
  · exact (agrees_sizes finish other _).bind_same fun _ => agrees_pure rfl
  · exact agrees_pure rfl

theorem agrees_propertyOf {token otherToken : Token} (same : SameLexeme token otherToken) :
    Agrees Eq (propertyOf finish token) (propertyOf other otherToken) := by
  unfold propertyOf
  simp only [Token.isMark_congr same, Token.text_congr same]
  split
  · exact agrees_pure rfl
  split
  · exact agrees_pure rfl
  split
  · exact (agrees_mark finish other ":").bind fun _ _ _ =>
      (agrees_string finish other).bind_same fun _ => agrees_pure rfl
  split
  · exact (agrees_mark finish other ":").bind fun _ _ _ =>
      (agrees_arrow finish other).bind_same fun _ =>
      (agrees_path finish other).bind_same fun _ => agrees_pure rfl
  · exact agrees_throw rfl

theorem agrees_property : Agrees Eq (property finish) (property other) :=
  (agrees_next finish other).bind fun _ _ same => agrees_propertyOf finish other same

theorem agrees_nextProperty : Agrees Eq (nextProperty finish) (nextProperty other) :=
  (agrees_mark finish other ",").bind fun _ _ _ => agrees_property finish other

theorem agrees_properties : Agrees Eq (properties finish) (properties other) := by
  refine (agrees_mark finish other "[").bind fun _ _ _ => (agrees_property finish other).bind_same
    fun first => (agrees_repeated ?_ (fun _ => agrees_nextProperty finish other) _).bind_same
      fun _ =>
      (agrees_mark finish other "]").bind fun _ _ _ => agrees_pure rfl
  intro tokens others lexemes
  rw [startsWith_congr "," lexemes]

/-! ### Declarations -/

theorem agrees_column : Agrees Eq (column finish) (column other) := by
  refine (agrees_word finish other).bind_same fun _ =>
    (agrees_columnType finish other).bind_same fun _ =>
    (agrees_isNext "[").bind_same fun opening => ?_
  split
  · exact (agrees_properties finish other).bind_same fun _ => agrees_pure rfl
  · exact agrees_pure rfl

theorem agrees_note (before : List TableEntry) :
    Agrees Eq (note finish before) (note other before) := by
  refine (agrees_next finish other).bind fun _ _ _ => ?_
  split
  · exact agrees_throw rfl
  · exact (agrees_mark finish other ":").bind fun _ _ _ =>
      (agrees_string finish other).bind_same fun _ => agrees_pure rfl

theorem agrees_entry (before : List TableEntry) :
    Agrees Eq (entry finish before) (entry other before) := by
  intro tokens others lexemes
  unfold entry
  rw [noteFollows_congr lexemes, map_eq_pure_bind, map_eq_pure_bind]
  split
  · exact agrees_note finish other before lexemes
  · exact (agrees_column finish other).bind_same (fun _ => agrees_pure rfl) lexemes

theorem agrees_alias? : Agrees Eq (alias? finish) (alias? other) := by
  refine (agrees_isNext "as").bind_same fun _ => ?_
  split
  · exact (agrees_next finish other).bind fun _ _ _ =>
      (agrees_word finish other).bind_same fun _ => agrees_pure rfl
  · exact agrees_pure rfl

theorem agrees_member : Agrees Eq (member finish) (member other) := by
  refine (agrees_nextIf finish other _ fun _ _ same => ?_).bind fun _ _ same =>
    agrees_optionalComma.bind_same fun _ => agrees_pure ?_
  · rw [Token.kind_congr same]
  · rw [Token.kind_congr same, Token.text_congr same, Token.unquoted_congr same]

theorem agrees_table : Agrees Eq (table finish) (table other) :=
  (agrees_mark finish other _).bind fun _ _ _ => (agrees_word finish other).bind_same fun _ =>
    (agrees_alias? finish other).bind_same fun _ => (agrees_mark finish other _).bind fun _ _ _ =>
      (agrees_repeated (fun _ _ => startsWith_congr _) (agrees_entry finish other) _).bind_same
        fun _ =>
        (agrees_mark finish other _).bind fun _ _ _ => agrees_pure rfl

theorem agrees_enum : Agrees Eq (enum finish) (enum other) :=
  (agrees_mark finish other _).bind fun _ _ _ => (agrees_word finish other).bind_same fun _ =>
    (agrees_mark finish other _).bind fun _ _ _ =>
      (agrees_repeated (fun _ _ => startsWith_congr _) (fun _ => agrees_member finish other)
        _).bind_same
        fun _ => (agrees_mark finish other _).bind fun _ _ _ => agrees_pure rfl

theorem agrees_referenceName? : Agrees Eq (referenceName? finish) (referenceName? other) := by
  refine (agrees_isNext ":").bind_same fun _ => ?_
  split
  · exact agrees_pure rfl
  · exact (agrees_word finish other).bind_same fun _ => agrees_pure rfl

theorem agrees_reference : Agrees Eq (reference finish) (reference other) :=
  (agrees_mark finish other _).bind fun _ _ _ =>
    (agrees_referenceName? finish other).bind_same fun _ =>
    (agrees_mark finish other _).bind fun _ _ _ => (agrees_path finish other).bind_same fun _ =>
      (agrees_arrow finish other).bind_same fun _ => (agrees_path finish other).bind_same fun _ =>
        agrees_pure rfl

theorem agrees_noDeclaration : Agrees Eq (noDeclaration finish) (noDeclaration other) :=
  (agrees_next finish other).bind fun _ _ same => agrees_throw (by rw [Token.text_congr same])

theorem agrees_declaration : Agrees Eq (declaration finish) (declaration other) := by
  intro tokens others lexemes
  unfold declaration
  simp only [startsWith_congr _ lexemes]
  split
  · exact agrees_table finish other lexemes
  split
  · exact agrees_enum finish other lexemes
  split
  · exact agrees_reference finish other lexemes
  · exact agrees_noDeclaration finish other lexemes

theorem agrees_schema : Agrees Eq (schema finish) (schema other) :=
  agrees_repeated (fun _ _ => isEmpty_congr) (fun _ => agrees_declaration finish other) []

end Grammar

/-- Two texts with the same lexemes are refused for the same cause, or they declare the same. -/
theorem declarations_congr {text other : String}
    (same : lexemesOf text.toList = lexemesOf other.toList) :
    (declarations text).mapError Mismatch.cause = (declarations other).mapError Mismatch.cause := by
  simp only [lexemesOf, Tokens.unplaced, Lexemes.mk.injEq] at same
  rcases same with ⟨lexemes, faults⟩
  unfold declarations Tokens.ofString
  revert lexemes faults
  generalize Tokens.ofCharsAt 0 text.toList = read
  generalize Tokens.ofCharsAt 0 other.toList = otherRead
  rcases read with ⟨tokens, stopped?⟩
  rcases otherRead with ⟨others, otherStopped?⟩
  intro lexemes faults
  cases stopped? <;> cases otherStopped?
  case none.none =>
    have ends := Grammar.agrees_schema text.length other.length lexemes
    dsimp only
    generalize Grammar.schema text.length tokens = result,
      Grammar.schema other.length others = otherResult at ends
    cases ends with
    | ok parts left => rw [parts]; rfl
    | error cause => exact congrArg Except.error cause
  case some.some mismatch otherMismatch =>
    exact congrArg Except.error (Option.some.inj faults)
  all_goals simp at faults

/-- Two texts with the same lexemes have the same result. -/
theorem result_parse?_congr {text other : String}
    (same : lexemesOf text.toList = lexemesOf other.toList) :
    (parse? text).result = (parse? other).result := by
  have sameDeclarations := declarations_congr same
  unfold parse?
  cases read : declarations text <;> cases readOther : declarations other <;>
    rw [read, readOther] at sameDeclarations
  case ok.ok found otherFound =>
    rw [Except.ok.inj sameDeclarations]
  all_goals cases sameDeclarations

end Schemagram.Strict
