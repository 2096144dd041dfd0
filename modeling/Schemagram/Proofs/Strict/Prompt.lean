import Schemagram.Proofs.Strict.Unchecked

/-!
# Rules that fail at the first token at fault

A rule is prompt if it stops at the first token with which no phrase of its language goes on.  When
it succeeds, it has taken such a phrase, and it takes the same phrase from any list that begins so
and goes on with the same token.  When it fails, what it has taken is the beginning of a phrase, and
it fails on every list that begins with it and the token at fault; a second note is at fault only
with the colon behind it.

The second run is one with zeros for sizes, in which no size is at fault.  The lemmas here say how
prompt rules are put together.
-/

namespace Schemagram.Strict

/-! ### Where a mismatch comes from -/

/-- Whether a size is at fault. -/
def Mismatch.Cause.isNumberCheck : Mismatch.Cause → Bool
  | .expectedNumber _ _ => true
  | _ => false

/-- How many tokens from the reported one on are at fault together. -/
def Mismatch.Cause.reach : Mismatch.Cause → Nat
  | .noteTwice => 2
  | _ => 1

theorem Mismatch.Cause.reach_pos (cause : Mismatch.Cause) : 0 < cause.reach := by
  cases cause <;> simp [reach]

/-- A mismatch is found between tokens that have been taken and those that are left: it names the
first token left and its offset, or the end.  A size is named after its phrase has been read, with
the offset of the closing parenthesis. -/
inductive Mismatch.Arises (finish : Nat) (taken : List Token) : List Token → Mismatch → Prop where
  | unexpectedEnd : Arises finish taken [] ⟨.unexpectedEnd, finish⟩
  | expected (wanted : Wanted) (token : Token) (rest : List Token) :
      Arises finish taken (token :: rest) ⟨.expected wanted token.text, token.position⟩
  | noteTwice {keyword : Token} (colon : Token) (rest : List Token)
      (isNote : keyword.isMark "Note" = true) :
      Arises finish taken (keyword :: colon :: rest) ⟨.noteTwice, keyword.position⟩
  | unknownProperty (token : Token) (rest : List Token) :
      Arises finish taken (token :: rest) ⟨.unknownProperty token.text, token.position⟩
  | expectedNumber (base : String) {size closing : Token} (rest : List Token) (mem : size ∈ taken)
      (isWord : size.kind = .word) (isClosing : closing.isMark ")" = true) :
      Arises finish taken (closing :: rest) ⟨.expectedNumber base size.text, closing.position⟩

theorem Mismatch.Arises.after {finish : Nat} {taken rest : List Token} {mismatch : Mismatch}
    (arises : mismatch.Arises finish taken rest) (before : List Token) :
    mismatch.Arises finish (before ++ taken) rest := by
  cases arises with
  | unexpectedEnd => exact .unexpectedEnd
  | expected wanted token rest => exact .expected wanted token rest
  | noteTwice colon rest isNote => exact .noteTwice colon rest isNote
  | unknownProperty token rest => exact .unknownProperty token rest
  | expectedNumber base rest mem isWord isClosing =>
    exact .expectedNumber base rest (List.mem_append_right before mem) isWord isClosing

namespace Rule

variable {Part Other : Type}

/-! ### Single runs -/

/-- A rule has taken a phrase off a list, and another rule takes the same phrase off every list that
begins so, with zeros for sizes, and goes on with the same token. -/
def Passes (start stop : Bool) (language : Language Token) (other : Rule Part)
    (tokens rest : List Token) (otherPart : Part) : Prop :=
  ∃ taken, tokens = taken ++ rest ∧ IsWritten start stop language taken ∧
    ∀ others, others.head? = (withZeros stop rest).head? →
      other (withZeros start taken ++ others) = .ok (otherPart, others)

/-- A rule has failed on a list.  Unless a size is at fault, what it has taken is the beginning of a
phrase, and another rule fails on every list that begins so, with zeros for sizes, and goes on with
the same tokens at fault. -/
def Refuses (finish : Nat) (start stop : Bool) (spells : Part → Language Token) (other : Rule Part)
    (tokens : List Token) (mismatch : Mismatch) : Prop :=
  ∃ taken rest, tokens = taken ++ rest ∧ mismatch.Arises finish taken rest ∧
    (mismatch.cause.isNumberCheck = false →
      (∃ part more, IsWritten start stop (spells part) (taken ++ more)) ∧
      ∀ others, others.take mismatch.cause.reach =
          (withZeros (insideBehind start taken) rest).take mismatch.cause.reach →
        ∃ otherMismatch, other (withZeros start taken ++ others) = .error otherMismatch)

theorem head?_eq_of_take_eq {tokens others : List Token} {count : Nat} (positive : 0 < count)
    (sameFront : others.take count = tokens.take count) : others.head? = tokens.head? := by
  have sameHead := congrArg List.head? sameFront
  rwa [List.head?_take, List.head?_take, if_neg (by omega), if_neg (by omega)] at sameHead

theorem startsWith_eq_of_head?_eq (text : String) {tokens others : List Token}
    (sameHead : others.head? = tokens.head?) :
    Grammar.startsWith text others = Grammar.startsWith text tokens := by
  cases tokens <;> cases others <;> simp_all [Grammar.startsWith]

/-- Tokens that go on alike behind what has been taken begin alike. -/
theorem head?_withZeros_append {inside : Bool} {taken rest others : List Token}
    (sameHead : others.head? = (withZeros (insideBehind inside taken) rest).head?) :
    (withZeros inside taken ++ others).head? = (withZeros inside (taken ++ rest)).head? := by
  rw [withZeros_append, List.head?_append, List.head?_append, sameHead]

section Runs

variable {finish : Nat} {start middle stop : Bool} {language larger further : Language Token}
  {spells : Part → Language Token} {other : Rule Part} {whole : Rule Other}
    {tokens after rest : List Token}
  {otherPart : Part} {mismatch : Mismatch}

theorem Passes.mono {another : Rule Part}
    (passes : Passes start stop language other tokens rest otherPart) (smaller : language ≤ larger)
    (passesToo : ∀ others left, others.head? = (withZeros start tokens).head? →
      other others = .ok (otherPart, left) → another others = .ok (otherPart, left)) :
    Passes start stop larger another tokens rest otherPart := by
  rcases passes with ⟨taken, rfl, written, again⟩
  refine ⟨taken, rfl, written.mono smaller, fun others sameHead =>
    passesToo _ others ?_ (again others sameHead)⟩
  apply head?_withZeros_append
  rwa [written.insideBehind_eq]

/-- A run that goes on behind another one. -/
theorem Passes.append {behind : Rule Other} {otherResult : Other}
    (first : Passes start middle language other tokens after otherPart)
    (second : Passes middle stop further behind after rest otherResult)
    (goesOn : ∀ others more, others.head? = (withZeros start tokens).head? →
      other others = .ok (otherPart, more) → whole others = behind more) :
    Passes start stop (language * further) whole tokens rest otherResult := by
  rcases first with ⟨taken, rfl, written, again⟩
  rcases second with ⟨behindTaken, rfl, behindWritten, behindAgain⟩
  refine ⟨taken ++ behindTaken, (List.append_assoc _ _ _).symm, written.append behindWritten,
    fun others sameHead => ?_⟩
  have sameBehind :
      (withZeros middle behindTaken ++ others).head? =
      (withZeros middle (behindTaken ++ rest)).head? := by
    apply head?_withZeros_append
    rwa [behindWritten.insideBehind_eq]
  rw [withZeros_append, written.insideBehind_eq, List.append_assoc,
    goesOn _ _ (head?_withZeros_append (by rwa [written.insideBehind_eq])) (again _ sameBehind)]
  exact behindAgain others sameHead

/-- Where a rule fails, so does every rule that fails with the other one and whose phrases can be
reached. -/
theorem Refuses.mono {spellsWhole : Other → Language Token}
    (refuses : Refuses finish start middle spells other tokens mismatch)
    (reaches : ∀ part taken, IsWritten start middle (spells part) taken →
      ∃ result more, IsWritten start stop (spellsWhole result) (taken ++ more))
    (fails : ∀ others otherMismatch, others.head? = (withZeros start tokens).head? →
      other others = .error otherMismatch → ∃ found, whole others = .error found) :
    Refuses finish start stop spellsWhole whole tokens mismatch := by
  rcases refuses with ⟨taken, rest, rfl, arises, atFault⟩
  refine ⟨taken, rest, rfl, arises, fun unchecked => ?_⟩
  rcases atFault unchecked with ⟨⟨part, more, written⟩, refused⟩
  rcases reaches part _ written with ⟨result, ending, writtenWhole⟩
  refine ⟨⟨result, more ++ ending, by rwa [← List.append_assoc]⟩, fun others sameFront => ?_⟩
  rcases refused others sameFront with ⟨otherMismatch, failed⟩
  exact fails _ otherMismatch
    (head?_withZeros_append (head?_eq_of_take_eq mismatch.cause.reach_pos sameFront)) failed

theorem Refuses.weaken {spellsWhole : Other → Language Token}
    (refuses : Refuses finish start stop spells other tokens mismatch)
    (smaller : ∀ part, ∃ result, spells part ≤ spellsWhole result)
    (fails : ∀ others otherMismatch, others.head? = (withZeros start tokens).head? →
      other others = .error otherMismatch → ∃ found, whole others = .error found) :
    Refuses finish start stop spellsWhole whole tokens mismatch := by
  refine refuses.mono (fun part taken written => ?_) fails
  rcases smaller part with ⟨result, isSmaller⟩
  exact ⟨result, [], by simpa using written.mono isSmaller⟩

/-- A run that fails behind another one. -/
theorem Refuses.append {behind : Rule Other} {spellsBehind : Other → Language Token}
    (first : Passes start middle language other tokens after otherPart)
    (second : Refuses finish middle stop spellsBehind behind after mismatch)
    (goesOn : ∀ others more, others.head? = (withZeros start tokens).head? →
      other others = .ok (otherPart, more) → whole others = behind more) :
    Refuses finish start stop (fun result => language * spellsBehind result) whole tokens
      mismatch := by
  rcases first with ⟨taken, rfl, written, again⟩
  rcases second with ⟨behindTaken, rest, rfl, arises, atFault⟩
  refine ⟨taken ++ behindTaken, rest, (List.append_assoc _ _ _).symm, arises.after taken,
    fun unchecked => ?_⟩
  rcases atFault unchecked with ⟨⟨result, more, behindWritten⟩, refused⟩
  refine ⟨⟨result, more, ?_⟩, fun others sameFront => ?_⟩
  · rw [List.append_assoc]
    exact written.append behindWritten
  · rw [insideBehind_append, written.insideBehind_eq] at sameFront
    have sameBehind : (withZeros middle behindTaken ++ others).head? =
        (withZeros middle (behindTaken ++ rest)).head? :=
      head?_withZeros_append (head?_eq_of_take_eq mismatch.cause.reach_pos sameFront)
    rw [withZeros_append, written.insideBehind_eq, List.append_assoc,
      goesOn _ _ (head?_withZeros_append (by rwa [written.insideBehind_eq])) (again _ sameBehind)]
    exact refused others sameFront

end Runs

/-! ### Prompt rules -/

/-- A rule takes phrases of the languages of its parts and fails at the first token at fault.  It is
compared with another rule, which runs on zeros for sizes and returns a part that agrees. -/
structure Prompt (finish : Nat) (start stop : Bool) (spells : Part → Language Token)
    (agree : Part → Part → Prop) (rule other : Rule Part) : Prop where
  possible : ∃ part otherPart tokens, agree part otherPart ∧
    IsWritten start stop (spells part) tokens
  passes : ∀ ⦃tokens part rest⦄, rule tokens = .ok (part, rest) →
    ∃ otherPart, agree part otherPart ∧ Passes start stop (spells part) other tokens rest otherPart
  fails : ∀ ⦃tokens mismatch⦄, rule tokens = .error mismatch →
    Refuses finish start stop spells other tokens mismatch

/-- Parts of which nothing is compared. -/
def Any (_ _ : Part) : Prop := True

/-- Chooses a rule by the next token. -/
def choose (text : String) (yes no : Rule Part) : Rule Part :=
  fun tokens => if Grammar.startsWith text tokens then yes tokens else no tokens

theorem bind_of_ok {rule : Rule Part} {more : Part → Rule Other} {tokens after : List Token}
    {part : Part} (read : rule tokens = .ok (part, after)) :
    (rule >>= more) tokens = more part after := by
  change Except.bind (rule tokens) (fun read => more read.1 read.2) = _
  rw [read]
  rfl

theorem bind_eq_error {rule : Rule Part} {more : Part → Rule Other} {tokens : List Token}
    {mismatch : Mismatch} :
    (rule >>= more) tokens = .error mismatch ↔ rule tokens = .error mismatch ∨
      ∃ part after, rule tokens = .ok (part, after) ∧ more part after = .error mismatch := by
  change Except.bind (rule tokens) (fun read => more read.1 read.2) = .error mismatch ↔ _
  cases rule tokens with
  | error failed => simp [Except.bind]
  | ok read =>
    rcases read with ⟨part, after⟩
    simp [Except.bind]

variable {finish : Nat} {start middle stop : Bool} {spells : Part → Language Token}
  {agree : Part → Part → Prop}
  {rule other : Rule Part}

theorem Prompt.mono {larger : Part → Language Token} {weaker : Part → Part → Prop}
    (prompt : Prompt finish start stop spells agree rule other)
    (smaller : ∀ part, spells part ≤ larger part)
    (stronger : ∀ part otherPart, agree part otherPart → weaker part otherPart) :
    Prompt finish start stop larger weaker rule other where
  possible := by
    rcases prompt.possible with ⟨part, otherPart, tokens, agrees, written⟩
    exact ⟨part, otherPart, tokens, stronger _ _ agrees, written.mono (smaller part)⟩
  passes tokens part rest read := by
    rcases prompt.passes read with ⟨otherPart, agrees, passes⟩
    exact ⟨otherPart, stronger _ _ agrees, passes.mono (smaller part) fun _ _ _ => id⟩
  fails tokens mismatch failed := by
    exact (prompt.fails failed).weaken (fun part => ⟨part, smaller part⟩)
      fun _ found _ otherFailed =>
      ⟨found, otherFailed⟩

/-- A rule on which nothing depends may be weakened to its language. -/
theorem Prompt.weaken {language : Language Token}
    (prompt : Prompt finish start stop spells agree rule other)
    (smaller : ∀ part, spells part ≤ language) :
    Prompt finish start stop (fun _ => language) Any rule other :=
  prompt.mono smaller fun _ _ _ => trivial

theorem prompt_pure (finish : Nat) (inside : Bool) (spells : Part → Language Token)
    {part otherPart : Part} (written : [] ∈ spells part) (agrees : agree part otherPart) :
    Prompt finish inside inside spells agree (pure part) (pure otherPart) where
  possible := ⟨part, otherPart, [], agrees, isWritten_nil inside written⟩
  passes tokens result rest read := by
    cases read
    exact ⟨otherPart, agrees, [], rfl, isWritten_nil inside written, fun _ _ => rfl⟩
  fails tokens mismatch failed := by cases failed

/-- One rule behind the other. -/
theorem Prompt.bind {language : Language Token} {further : Other → Language Token}
    {alike : Other → Other → Prop} {more otherMore : Part → Rule Other}
    (first : Prompt finish start middle (fun _ => language) agree rule other)
    (second : ∀ part otherPart, agree part otherPart →
      Prompt finish middle stop further alike (more part) (otherMore otherPart)) :
    Prompt finish start stop (fun result => language * further result) alike (rule >>= more)
    (other >>= otherMore) where
  possible := by
    rcases first.possible with ⟨part, otherPart, tokens, agrees, written⟩
    rcases (second part otherPart agrees).possible with
      ⟨result, otherResult, behind, resultsAgree, behindWritten⟩
    exact ⟨result, otherResult, tokens ++ behind, resultsAgree, written.append behindWritten⟩
  passes tokens result rest read := by
    rcases bind_eq_ok.1 read with ⟨part, after, firstRead, secondRead⟩
    rcases first.passes firstRead with ⟨otherPart, agrees, passes⟩
    rcases (second part otherPart agrees).passes secondRead with ⟨otherResult, resultsAgree, behind⟩
    exact ⟨otherResult, resultsAgree, passes.append behind fun _ _ _ => bind_of_ok⟩
  fails tokens mismatch failed := by
    rcases bind_eq_error.1 failed with firstFailed | ⟨part, after, firstRead, secondFailed⟩
    · rcases first.possible with ⟨part, otherPart, _, agrees, _⟩
      rcases (second part otherPart agrees).possible with ⟨result, _, behind, _, behindWritten⟩
      exact (first.fails firstFailed).mono
        (fun _ _ written => ⟨result, behind, written.append behindWritten⟩)
        fun _ found _ otherFailed => ⟨found, bind_eq_error.2 (.inl otherFailed)⟩
    · rcases first.passes firstRead with ⟨otherPart, agrees, passes⟩
      exact .append passes ((second part otherPart agrees).fails secondFailed)
        fun _ _ _ => bind_of_ok

/-- A rule is prompt if on every list it does what a prompt rule does, and if the first token says
which one. -/
theorem Prompt.of_alike
    (possible : ∃ part otherPart tokens, agree part otherPart ∧
      IsWritten start stop (spells part) tokens)
    (alike : ∀ tokens, ∃ branch otherBranch,
      Prompt finish start stop spells agree branch otherBranch ∧
      rule tokens = branch tokens ∧
      ∀ others, others.head? = (withZeros start tokens).head? → other others = otherBranch others) :
    Prompt finish start stop spells agree rule other where
  possible := possible
  passes tokens part rest read := by
    rcases alike tokens with ⟨branch, otherBranch, prompt, same, otherSame⟩
    rcases prompt.passes (same ▸ read) with ⟨otherPart, agrees, passes⟩
    exact ⟨otherPart, agrees, passes.mono (le_refl _) fun others _ sameHead =>
      (otherSame others sameHead).trans⟩
  fails tokens mismatch failed := by
    rcases alike tokens with ⟨branch, otherBranch, prompt, same, otherSame⟩
    exact (prompt.fails (same ▸ failed)).weaken (fun part => ⟨part, le_refl _⟩)
      fun others found sameHead otherFailed =>
      ⟨found, (otherSame others sameHead).trans otherFailed⟩

/-- A choice by a token that zeros leave alone. -/
theorem Prompt.choose {text : String} {yes otherYes no otherNo : Rule Part}
    (clear : start = false ∨ text.toList.any (fun char => !Text.isWord char) = true)
    (ifYes : Prompt finish start stop spells agree yes otherYes)
    (ifNo : Prompt finish start stop spells agree no otherNo) :
    Prompt finish start stop spells agree (Rule.choose text yes no)
    (Rule.choose text otherYes otherNo) := by
  refine .of_alike ifNo.possible fun tokens => ?_
  have sameChoice (others : List Token) (sameHead : others.head? = (withZeros start tokens).head?) :
      Grammar.startsWith text others = Grammar.startsWith text tokens := by
    rw [startsWith_eq_of_head?_eq text sameHead, startsWith_withZeros clear]
  by_cases follows : Grammar.startsWith text tokens = true
  · refine ⟨yes, otherYes, ifYes, if_pos follows, fun others sameHead => ?_⟩
    rw [Rule.choose, sameChoice others sameHead, if_pos follows]
  · refine ⟨no, otherNo, ifNo, if_neg follows, fun others sameHead => ?_⟩
    rw [Rule.choose, sameChoice others sameHead, if_neg follows]

/-- A repetition takes the phrases of its parts, one behind the other, and may stop behind each of
them. -/
theorem prompt_repeated {stops : List Token → Bool} {each otherEach : List Part → Rule Part}
    {takes : ∀ before, (each before).Takes} {otherTakes : ∀ before, (otherEach before).Takes}
    (fits : List Part → List Part → Prop) (one : List Part → Part → Language Token)
    (language : List Part → Language Token)
    (stopsAlike : ∀ tokens others, others.head? = (withZeros start tokens).head? →
      stops others = stops tokens)
    (prompt : ∀ before otherBefore, fits before otherBefore → Prompt finish start start (one before)
      (fun part otherPart => fits (before ++ [part]) (otherBefore ++ [otherPart])) (each before)
      (otherEach otherBefore))
    (empty : ∀ before, [] ∈ language before)
    (grows : ∀ before part, one before part * language (before ++ [part]) ≤ language before)
    (before otherBefore : List Part) (fit : fits before otherBefore) :
    Prompt finish start start (fun _ => language before) Any (repeated stops each takes before)
      (repeated stops otherEach otherTakes otherBefore) := by
  -- Behind each part, the other run goes on with the rest of its repetition.
  have goesOn (otherBefore : List Part) (otherPart : Part) (tokens : List Token)
      (notStopped : ¬stops tokens = true)
      (others more : List Token) (sameHead : others.head? = (withZeros start tokens).head?)
      (otherRead : otherEach otherBefore others = .ok (otherPart, more)) :
      repeated stops otherEach otherTakes otherBefore others =
        repeated stops otherEach otherTakes (otherBefore ++ [otherPart]) more := by
    rw [repeated.eq_def stops otherEach otherTakes otherBefore, stopsAlike tokens others sameHead,
      if_neg notStopped, otherRead]
  refine ⟨⟨before, otherBefore, [], trivial, isWritten_nil start (empty before)⟩, fun tokens => ?_,
    fun tokens => ?_⟩
  · fun_induction repeated stops each takes before tokens generalizing otherBefore with
    | case1 before tokens stop =>
      intro parts rest read
      cases read
      refine ⟨otherBefore, trivial, [], rfl, isWritten_nil start (empty before),
        fun others sameHead => ?_⟩
      rw [withZeros_nil, List.nil_append, repeated, stopsAlike tokens others sameHead, if_pos stop]
    | case2 before tokens notStopped mismatch failed =>
      intro parts rest read
      cases read
    | case3 before tokens notStopped part after partRead ih =>
      intro parts rest read
      rcases (prompt before otherBefore fit).passes partRead with ⟨otherPart, fitMore, passes⟩
      rcases ih _ fitMore read with ⟨otherParts, _, behind⟩
      exact ⟨otherParts, trivial,
        (passes.append behind (goesOn otherBefore otherPart tokens notStopped)).mono
        (grows before part) fun _ _ _ => id⟩
  · fun_induction repeated stops each takes before tokens generalizing otherBefore with
    | case1 before tokens stop =>
      intro mismatch failed
      cases failed
    | case2 before tokens notStopped mismatch partFailed =>
      intro mismatch failed
      cases failed
      refine ((prompt before otherBefore fit).fails partFailed).mono
        (fun part taken written => ?_) ?_
      · exact ⟨before, [],
          (written.append (isWritten_nil start (empty _))).mono (grows before part)⟩
      · intro others found sameHead otherFailed
        refine ⟨found, ?_⟩
        rw [repeated.eq_def stops otherEach, stopsAlike tokens others sameHead, if_neg notStopped,
          otherFailed]
    | case3 before tokens notStopped part after partRead ih =>
      intro mismatch failed
      rcases (prompt before otherBefore fit).passes partRead with ⟨otherPart, fitMore, passes⟩
      exact (Refuses.append passes (ih _ fitMore failed)
        (goesOn otherBefore otherPart tokens notStopped)).weaken
        (fun parts => ⟨parts, grows before part⟩) fun _ found _ otherFailed => ⟨found, otherFailed⟩

end Rule

end Schemagram.Strict
