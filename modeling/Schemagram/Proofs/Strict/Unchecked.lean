import Mathlib.Computability.Language
import Mathlib.Order.CompletePartialOrder
import Schemagram.Proofs.Strict.Unambiguous

/-!
# Token lists without the number check

A size that is no number is the only thing that the grammar finds wrong with a word between
parentheses.  So a list of tokens is accepted but for the number check if it is accepted with a zero
in place of every such word.

A phrase may begin or end between parentheses: whether it does depends on the tokens before it, and
the last parenthesis says whether the place behind it is inside.
-/

namespace Schemagram.Strict

/-- The token 0 at some offset. -/
def Token.zero (position : Nat) : Token where
  kind := .word
  text := "0"
  position := position
  form := .word (by decide) (by decide)

/-- Whether the place behind a token is between parentheses. -/
def Token.isInsideBehind (inside : Bool) (token : Token) : Bool :=
  token.isMark "(" || inside && !token.isMark ")"

/-- A token with a zero in its place if it is a word between parentheses. -/
def Token.withZero (inside : Bool) (token : Token) : Token :=
  if inside && token.kind = .word then .zero token.position else token

/-- Whether the place behind some tokens is between parentheses. -/
def insideBehind (inside : Bool) (tokens : List Token) :
    Bool := tokens.foldl Token.isInsideBehind inside

/-- Tokens with a zero in place of every word between parentheses. -/
def withZeros (inside : Bool) : List Token → List Token
  | [] => []
  | token :: rest => token.withZero inside :: withZeros (token.isInsideBehind inside) rest

/-- The parser reads a token list to its end. -/
def Accepts (tokens : List Token) : Prop := ∃ found, ∀ finish,
    Grammar.schema finish tokens = .ok (found, [])

/-- The parser reads a token list to its end if it may take any word for a size. -/
def AcceptsUnchecked (tokens : List Token) : Prop := Accepts (withZeros false tokens)

/-- Tokens that belong to a language but for the number check, from a place that may be between
parentheses to one that may be so too. -/
structure IsWritten (start stop : Bool) (language : Language Token) (tokens : List Token) :
    Prop where
  insideBehind_eq : insideBehind start tokens = stop
  mem : withZeros start tokens ∈ language

theorem accepts_iff {tokens : List Token} :
    Accepts tokens ↔ ∃ derivation : Derivation, derivation.tokens = tokens := by
  simp only [Accepts, Grammar.schema_eq_ok, true_and]
  constructor
  · rintro ⟨found, isRead⟩
    rcases isRead 0 with ⟨derivation, _, rfl⟩
    exact ⟨derivation, rfl⟩
  · rintro ⟨derivation, rfl⟩
    exact ⟨_, fun _ => ⟨derivation, rfl, rfl⟩⟩

/-! ### Words and marks -/

namespace Token

variable {inside : Bool} {token : Token}

@[simp]
theorem withZero_false (token : Token) : token.withZero false = token := rfl

@[simp]
theorem kind_withZero (inside : Bool) (token : Token) :
    (token.withZero inside).kind = token.kind := by
  unfold withZero
  split
  · rename_i isReplaced
    simp only [Bool.and_eq_true, decide_eq_true_eq] at isReplaced
    exact isReplaced.2.symm
  · rfl

/-- Only words are replaced. -/
theorem withZero_eq_self (notWord : token.kind ≠ .word) (inside : Bool) :
    token.withZero inside = token := by
  simp [withZero, notWord]

/-- A zero stands where there was no mark, and is none. -/
theorem isMark_withZero {text : String}
    (clear : inside = false ∨ text.toList.any (fun char => !Text.isWord char) = true)
    (token : Token) :
    (token.withZero inside).isMark text = token.isMark text := by
  rcases clear with rfl | foreign
  · rfl
  · by_cases isWord : token.kind = .word
    · rw [isMark_eq_false_of_word isWord text foreign,
        isMark_eq_false_of_word (by simpa using isWord) text foreign]
    · rw [withZero_eq_self isWord]

/-- Only parentheses lead into parentheses and out of them. -/
theorem isInsideBehind_eq_self (isWord : token.kind ≠ .punctuation) (inside : Bool) :
    token.isInsideBehind inside = inside := by
  have noMark (text : String) (foreign : text.toList.any (fun char => !Text.isWord char) = true) :
      token.isMark text = false := by
    cases isKind : token.kind with
    | string => exact isMark_eq_false_of_string isKind text
    | word => exact isMark_eq_false_of_word isKind text foreign
    | punctuation => exact absurd isKind isWord
  rw [isInsideBehind, noMark "(" (by decide), noMark ")" (by decide)]
  simp

theorem isInsideBehind_of_isMark {text : String} (isText : token.isMark text = true)
    (inside : Bool) :
    token.isInsideBehind inside = (text = "(" || inside && text ≠ ")") := by
  simp only [isInsideBehind]
  simp only [isMark, Bool.and_eq_true, decide_eq_true_eq] at isText ⊢
  simp [isText.1, isText.2]

end Token

/-! ### Lists -/

section

variable {start middle stop : Bool} {first second language other : Language Token}

@[simp]
theorem withZeros_nil (inside : Bool) : withZeros inside [] = [] := rfl

@[simp]
theorem withZeros_cons (inside : Bool) (token : Token) (rest : List Token) :
    withZeros inside (token :: rest) = token.withZero inside :: withZeros
    (token.isInsideBehind inside) rest := rfl

theorem insideBehind_append (inside : Bool) (tokens more : List Token) :
    insideBehind inside (tokens ++ more) = insideBehind (insideBehind inside tokens) more :=
  List.foldl_append

theorem withZeros_append (inside : Bool) (tokens more : List Token) :
    withZeros inside (tokens ++ more) = withZeros inside tokens ++
      withZeros (insideBehind inside tokens) more := by
  induction tokens generalizing inside with
  | nil => rfl
  | cons token rest ih => simp [ih, insideBehind]

theorem take_withZeros (inside : Bool) (tokens : List Token) (count : Nat) :
    (withZeros inside tokens).take count = withZeros inside (tokens.take count) := by
  induction tokens generalizing inside count with
  | nil => simp
  | cons token rest ih =>
    cases count with
    | zero => rfl
    | succ count => simp [ih]

theorem startsWith_withZeros {inside : Bool} {text : String}
    (clear : inside = false ∨ text.toList.any (fun char => !Text.isWord char) = true)
    (tokens : List Token) :
    Grammar.startsWith text (withZeros inside tokens) = Grammar.startsWith text tokens := by
  cases tokens with
  | nil => rfl
  | cons token rest => exact Token.isMark_withZero clear token

theorem isWritten_nil (inside : Bool) (mem : [] ∈ language) :
    IsWritten inside inside language [] := ⟨rfl, mem⟩

theorem IsWritten.append {tokens more : List Token} (written : IsWritten start middle first tokens)
    (moreWritten : IsWritten middle stop second more) :
    IsWritten start stop (first * second) (tokens ++ more) := by
  rcases written with ⟨rfl, mem⟩
  refine ⟨?_, ?_⟩
  · rw [insideBehind_append, moreWritten.insideBehind_eq]
  · rw [withZeros_append]
    exact Language.append_mem_mul mem moreWritten.mem

theorem IsWritten.mono {tokens : List Token} (written : IsWritten start stop language tokens)
    (smaller : language ≤ other) : IsWritten start stop other tokens :=
  ⟨written.insideBehind_eq, smaller written.mem⟩

end

end Schemagram.Strict
