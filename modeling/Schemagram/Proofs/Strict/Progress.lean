import Schemagram.Proofs.Strict.Mismatches

/-!
# How far the rules of the strict grammar get

Wherever a rule starts in a token list, it takes at least one token and none behind the end, or it
stops at a token of the list or at the end.  So no mismatch is reported outside of the text.

A repetition takes a token in every pass.  So a loop that knows no measure is over after as many
passes as there are tokens left, however the list is cut off or spoilt.
-/

namespace Schemagram.Strict

/-- From an index on, a mismatch is found at a token of a list, or at the end if no token is
left. -/
def Mismatch.StopsFrom (mismatch : Mismatch) (finish : Nat) (tokens : List Token) (index : Nat) :
    Prop :=
  ∃ place, index ≤ place ∧
    match tokens[place]? with
    | some token => mismatch.position = token.position
    | none => mismatch = ⟨.unexpectedEnd, finish⟩

namespace Rule

variable {Part : Type}

/-! ### Taking tokens -/

/-- From every index on, a rule goes on by at least one token and not past the end, or it stops. -/
structure Advances (finish : Nat) (rule : Rule Part) : Prop where
  taken : ∀ (tokens : List Token) (index : Nat) (part : Part) (rest : List Token),
    rule (tokens.drop index) = .ok (part, rest) →
      ∃ after, index < after ∧ after ≤ tokens.length ∧ rest = tokens.drop after
  stopped : ∀ (tokens : List Token) (index : Nat) (mismatch : Mismatch),
    rule (tokens.drop index) = .error mismatch → mismatch.StopsFrom finish tokens index

variable {finish : Nat} {start stop : Bool} {spells : Part → Language Token}
  {agree : Part → Part → Prop}
  {rule other : Rule Part}

/-- The tokens left behind some that were taken begin at an index of their own. -/
theorem drop_eq_of_split {tokens taken rest : List Token} {index : Nat}
    (split : tokens.drop index = taken ++ rest) :
    tokens.drop (index + taken.length) = rest := by
  rw [← List.drop_drop, split, List.drop_left]

theorem Prompt.stopsFrom (prompt : Prompt finish start stop spells agree rule other)
    {tokens : List Token} {index : Nat} {mismatch : Mismatch}
    (failed : rule (tokens.drop index) = .error mismatch) :
    mismatch.StopsFrom finish tokens index := by
  rcases prompt.fails failed with ⟨taken, rest, split, arises, _⟩
  have next : tokens[index + taken.length]? = rest.head? := by
    rw [← List.head?_drop, drop_eq_of_split split]
  refine ⟨index + taken.length, Nat.le_add_right _ _, ?_⟩
  rw [next]
  cases arises <;> rfl

theorem Prompt.advances (prompt : Prompt finish start stop spells agree rule other)
    (takes : rule.Takes) :
    rule.Advances finish where
  taken tokens index part rest read := by
    rcases prompt.passes read with ⟨_, _, taken, split, _⟩
    have fewer := takes _ _ _ read
    have lengths := congrArg List.length split
    rw [List.length_append, List.length_drop] at lengths
    rw [List.length_drop] at fewer
    exact ⟨index + taken.length, by omega, by omega, (drop_eq_of_split split).symm⟩
  stopped _ _ _ := prompt.stopsFrom

/-! ### Loops -/

/-- A loop that may test only so often whether to stop, and has no result if that is not enough. -/
def loop? (stops : List Token → Bool) (rule : List Part → Rule Part) :
    (tests : Nat) → List Part → List Token → Option (Except Mismatch (List Part × List Token))
  | 0, _, _ => none
  | tests + 1, before, tokens =>
    if stops tokens then some (.ok (before, tokens))
    else
      match rule before tokens with
      | .error mismatch => some (.error mismatch)
      | .ok (part, rest) => loop? stops rule tests (before ++ [part]) rest

/-- A loop is over after a test for each token and one more, and has read what the repetition
reads. -/
def Ends (stops : List Token → Bool) (rule : List Part → Rule Part)
    (takes : ∀ before, (rule before).Takes) : Prop :=
  ∀ before tokens, loop? stops rule (tokens.length + 1) before tokens =
    some (repeated stops rule takes before tokens)

/-- Every pass takes a token, so that one test for each token and one more are enough. -/
theorem loop?_eq_repeated {stops : List Token → Bool} {rule : List Part → Rule Part}
    (takes : ∀ before, (rule before).Takes) (tests : Nat) (before : List Part) (tokens : List Token)
    (enough : tokens.length < tests) :
    loop? stops rule tests before tokens = some (repeated stops rule takes before tokens) := by
  induction tests generalizing before tokens with
  | zero => exact absurd enough (Nat.not_lt_zero _)
  | succ tests ih =>
    rw [loop?, repeated]
    split
    · rfl
    · cases read : rule before tokens with
      | error mismatch => rfl
      | ok result =>
        rcases result with ⟨part, rest⟩
        have fewer := takes before _ _ _ read
        exact ih _ _ (by omega)

theorem ends (stops : List Token → Bool) (rule : List Part → Rule Part)
    (takes : ∀ before, (rule before).Takes) :
    Ends stops rule takes :=
  fun before tokens => loop?_eq_repeated takes _ before tokens (Nat.lt_succ_self _)

end Rule

/-! ### Offsets -/

theorem position_lt_of_mem {text : String} {token : Token}
    (mem : token ∈ (Tokens.ofString text).tokens) :
    token.position < text.length := by
  have stands := (standsAt_of_mem mem).length_le
  have nonempty := token.position_lt_finish
  simp only [List.length_drop, String.length_toList] at stands
  unfold Token.finish at nonempty
  omega

theorem Mismatch.StopsFrom.position_le {text : String} {index : Nat} {mismatch : Mismatch}
    (stops : mismatch.StopsFrom text.length (Tokens.ofString text).tokens index) :
    mismatch.position ≤ text.length := by
  rcases stops with ⟨place, _, found⟩
  split at found
  · rename_i token isToken
    rw [found]
    exact Nat.le_of_lt (position_lt_of_mem (List.mem_of_getElem? isToken))
  · rw [found]

namespace Grammar

open Rule

/-! ### All rules -/

/-- Every rule advances or stops, and only the schema may take nothing, as it reads to the end.
Every loop is over in time.  A mismatch of a text has an offset in the text or at its end. -/
theorem rules_advance (finish : Nat) :
    (Advances finish (table finish) ∧ Advances finish (enum finish) ∧
      Advances finish (reference finish) ∧
      Advances finish (column finish) ∧ Advances finish (property finish) ∧
      Advances finish (columnType finish) ∧
      Advances finish (path finish)) ∧
    (∀ tokens index,
      (∀ found rest, schema finish (tokens.drop index) = .ok (found, rest) → rest = []) ∧
      ∀ mismatch, schema finish (tokens.drop index) = .error mismatch →
      mismatch.StopsFrom finish tokens index) ∧
    (Ends List.isEmpty (fun _ => declaration finish) (fun _ => takes_declaration finish) ∧
      Ends (startsWith "\x7d") (entry finish) (takes_entry finish) ∧
      Ends (startsWith "\x7d") (fun _ => member finish) (fun _ => takes_member finish) ∧
      Ends (!startsWith "," ·) (fun _ => nextProperty finish)
      (fun _ => takes_nextProperty finish)) ∧
    ∀ (text : String) (index : Nat) (mismatch : Mismatch),
      mismatch.StopsFrom text.length (Tokens.ofString text).tokens index →
      mismatch.position ≤ text.length := by
  refine ⟨⟨?_, ?_, ?_, ?_, ?_, ?_, ?_⟩, fun tokens index => ⟨?_, ?_⟩, ⟨?_, ?_, ?_, ?_⟩, ?_⟩
  · exact (prompt_table finish finish).advances (takes_table finish)
  · exact (prompt_enum finish finish).advances (takes_enum finish)
  · exact (prompt_reference finish finish).advances (takes_reference finish)
  · exact (prompt_column finish finish).advances (takes_column finish)
  · exact (prompt_property finish finish).advances (takes_property finish)
  · exact (prompt_columnType finish finish).advances (takes_columnType finish)
  · exact (prompt_path finish finish).advances (takes_path finish)
  · exact fun found rest read => ((schema_eq_ok finish).1 read).1
  · exact fun mismatch failed => (prompt_schema finish finish).stopsFrom failed
  · exact ends _ _ _
  · exact ends _ _ _
  · exact ends _ _ _
  · exact ends _ _ _
  · exact fun text index mismatch stops => stops.position_le

end Grammar

end Schemagram.Strict
