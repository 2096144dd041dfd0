import Mathlib.Data.List.Forall2
import Mathlib.Tactic.Tauto
import Schemagram.Scan

/-!
# What the scans take

Every scan takes one form off the beginning of a text.  The lemmas `…_eq_some` say which texts a
scan succeeds on, what it returns and what it leaves.

A longest run is described by the characters in it and by the text behind it, which may not begin
with a further character of the class: `Ends` says so.
-/

namespace Schemagram

namespace Text

/-- A text does not begin with a character of a class, so that a run of the class ends before it. -/
def Ends (isInside : Char → Bool) (rest : List Char) : Prop :=
  ∀ char ∈ rest.head?, isInside char = false

@[simp]
theorem ends_nil (isInside : Char → Bool) : Ends isInside [] := by
  simp [Ends]

@[simp]
theorem ends_cons {isInside : Char → Bool} {char : Char} {rest : List Char} :
    Ends isInside (char :: rest) ↔ isInside char = false := by
  simp [Ends]

/-- A run of at least one word character. -/
def IsWord (text : List Char) : Prop := text ≠ [] ∧ ∀ char ∈ text, isWord char = true

instance (text : List Char) : Decidable (IsWord text) :=
  inferInstanceAs (Decidable (text ≠ [] ∧ ∀ char ∈ text, isWord char = true))

/-- A run of a class holds no character outside of the class. -/
theorem not_mem_of_run {isInside : Char → Bool} {text : List Char} {char : Char}
    (isRun : ∀ inside ∈ text, isInside inside = true) (outside : isInside char = false) :
    char ∉ text := by
  intro mem
  rw [isRun char mem] at outside
  cases outside

theorem takeWhile_run {isInside : Char → Bool} {inside rest : List Char}
    (isRun : ∀ char ∈ inside, isInside char = true) (ends : Ends isInside rest) :
    (inside ++ rest).takeWhile isInside = inside := by
  rw [List.takeWhile_append_of_pos isRun]
  cases rest with
  | nil => simp
  | cons char more =>
    rw [ends_cons] at ends
    simp [ends]

theorem dropWhile_run {isInside : Char → Bool} {inside rest : List Char}
    (isRun : ∀ char ∈ inside, isInside char = true) (ends : Ends isInside rest) :
    (inside ++ rest).dropWhile isInside = rest := by
  rw [List.dropWhile_append_of_pos isRun]
  cases rest with
  | nil => simp
  | cons char more =>
    rw [ends_cons] at ends
    simp [ends]

theorem ends_dropWhile (isInside : Char → Bool) (text : List Char) :
    Ends isInside (text.dropWhile isInside) := by
  induction text with
  | nil => simp
  | cons char rest ih =>
    by_cases isIn : isInside char = true
    · simpa [isIn] using ih
    · simp [isIn]

end Text

namespace Scan

open Text

variable {Found : Type}

theorem bind_eq_none {Other : Type} {scan : Scan Found} {more : Found → Scan Other}
    {text : List Char} (failed : scan text = none) : (scan >>= more) text = none := by
  simp [bind, StateT.bind, failed]

theorem pure_eq_some {found result : Found} {text rest : List Char} :
    (pure found : Scan Found) text = some (result, rest) ↔ found = result ∧ text = rest := by
  change some (found, text) = some (result, rest) ↔ _
  rw [Option.some.injEq, Prod.mk.injEq]

theorem map_eq_some {Other : Type} {scan : Scan Found} {change : Found → Other}
    {text rest : List Char} {result : Other} :
    (change <$> scan) text = some (result, rest) ↔
      ∃ found, scan text = some (found, rest) ∧ change found = result := by
  rw [map_eq_pure_bind]
  simp only [bind_eq_some, pure_eq_some]
  constructor
  · rintro ⟨found, _, read, changed, rfl⟩
    exact ⟨found, read, changed⟩
  · rintro ⟨found, read, changed⟩
    exact ⟨found, rest, read, changed, rfl⟩

theorem orElse_eq_some {first second : Scan Found} {text rest : List Char} {result : Found} :
    (first <|> second) text = some (result, rest) ↔
      first text = some (result, rest) ∨ first text = none ∧ second text = some (result, rest) := by
  have tried : (first <|> second) text = (first text <|> second text) := rfl
  rw [tried]
  cases first text <;> simp

/-- A form that may be missing never makes a scan fail. -/
theorem optionally_eq_some (scan : Scan Unit) (text : List Char) :
    ∃ rest, optionally scan text = some ((), rest) := by
  cases read : scan text with
  | none => exact ⟨text, orElse_eq_some.2 (.inr ⟨read, rfl⟩)⟩
  | some found => exact ⟨found.2, orElse_eq_some.2 (.inl read)⟩

/-! ### Characters and keywords -/

theorem one_eq_some {accepts : Char → Bool} {text rest : List Char} {char : Char} :
    one accepts text = some (char, rest) ↔ text = char :: rest ∧ accepts char = true := by
  cases text with
  | nil => simp [one]
  | cons first more =>
    by_cases accepted : accepts first = true
    · simp only [one, accepted, if_true, Option.some.injEq, Prod.mk.injEq, List.cons.injEq]
      constructor
      · rintro ⟨rfl, rfl⟩
        exact ⟨⟨rfl, rfl⟩, accepted⟩
      · rintro ⟨same, _⟩
        exact same
    · simp only [one, accepted, List.cons.injEq]
      constructor
      · intro impossible
        cases impossible
      · rintro ⟨⟨rfl, _⟩, isAccepted⟩
        exact absurd isAccepted accepted

theorem mark_eq_some {char : Char} {text rest : List Char} {result : Unit} :
    mark char text = some (result, rest) ↔ text = char :: rest := by
  simp only [mark, bind_eq_some, one_eq_some, pure_eq_some, decide_eq_true_eq]
  constructor
  · rintro ⟨found, after, ⟨rfl, rfl⟩, _, rfl⟩
    rfl
  · rintro rfl
    exact ⟨char, rest, ⟨rfl, rfl⟩, trivial, rfl⟩

theorem literal_eq_some {same : Char → Char → Bool} {expected text rest : List Char}
    {result : Unit} :
    literal same expected text = some (result, rest) ↔
      ∃ written, List.Forall₂ (fun char other => same char other = true) expected written ∧
        text = written ++ rest := by
  induction expected generalizing text with
  | nil => simp [literal, pure_eq_some]
  | cons char more ih =>
    simp only [literal, bind_eq_some, one_eq_some, ih]
    constructor
    · rintro ⟨first, after, ⟨rfl, isSame⟩, written, spelledMore, rfl⟩
      exact ⟨first :: written, .cons isSame spelledMore, rfl⟩
    · rintro ⟨_, spelled, rfl⟩
      cases spelled with
      | cons isSame spelledMore => exact ⟨_, _, ⟨rfl, isSame⟩, _, spelledMore, rfl⟩

/-- Spelled as a keyword, letter by letter and regardless of case. -/
def IsSpelling (keyword : String) (written : List Char) : Prop :=
  List.Forall₂ (fun char other => isSameLetter char other = true) keyword.toList written

/-- Each character of a spelling is one of the letters of the keyword. -/
theorem IsSpelling.exists_letter {keyword : String} {written : List Char}
    (spelled : IsSpelling keyword written) {char : Char} (mem : char ∈ written) :
    ∃ letter ∈ keyword.toList,
    isSameLetter letter char = true := by
  rcases List.mem_iff_getElem.1 mem with ⟨index, inside, rfl⟩
  have within : index < keyword.toList.length := List.Forall₂.length_eq spelled ▸ inside
  exact ⟨_, List.getElem_mem within, (List.forall₂_iff_get.1 spelled).2 index within inside⟩

theorem keyword_eq_some {text : String} {chars rest : List Char} {result : Unit} :
    keyword text chars = some (result, rest) ↔
      ∃ written, IsSpelling text written ∧ chars = written ++ rest := literal_eq_some

/-! ### Runs -/

theorem run_eq_some {isInside : Char → Bool} {text inside rest : List Char} :
    run isInside text = some (inside, rest) ↔
      text = inside ++ rest ∧ (∀ char ∈ inside, isInside char = true) ∧ Ends isInside rest := by
  simp only [run, Option.some.injEq, Prod.mk.injEq]
  constructor
  · rintro ⟨rfl, rfl⟩
    exact ⟨List.takeWhile_append_dropWhile.symm, List.all_eq_true.1 List.all_takeWhile,
      ends_dropWhile isInside text⟩
  · rintro ⟨rfl, isRun, ends⟩
    exact ⟨takeWhile_run isRun ends, dropWhile_run isRun ends⟩

theorem someRun_eq_some {isInside : Char → Bool} {text inside rest : List Char} :
    someRun isInside text = some (inside, rest) ↔
      text = inside ++ rest ∧ inside ≠ [] ∧ (∀ char ∈ inside, isInside char = true) ∧
        Ends isInside rest := by
  have asRun : someRun isInside text = some (inside, rest) ↔
      run isInside text = some (inside, rest) ∧ inside ≠ [] := by
    simp only [someRun, run]
    split
    · rename_i isEmpty
      simp only [isEmpty, Option.some.injEq, Prod.mk.injEq, false_iff, reduceCtorEq]
      rintro ⟨⟨rfl, _⟩, nonempty⟩
      exact nonempty rfl
    · rename_i found notEmpty
      simp only [Option.some.injEq, Prod.mk.injEq]
      constructor
      · rintro ⟨rfl, rfl⟩
        exact ⟨⟨rfl, rfl⟩, notEmpty⟩
      · rintro ⟨same, _⟩
        exact same
  rw [asRun, run_eq_some]
  tauto

theorem spaces_eq_some {text rest : List Char} {result : Unit} :
    spaces text = some (result, rest) ↔
      ∃ blanks, text = blanks ++ rest ∧ (∀ char ∈ blanks, isSpace char = true) ∧
      Ends isSpace rest := by
  simp only [spaces, bind_eq_some, run_eq_some, pure_eq_some]
  constructor
  · rintro ⟨blanks, after, taken, _, rfl⟩
    exact ⟨blanks, taken⟩
  · rintro ⟨blanks, taken⟩
    exact ⟨blanks, rest, taken, trivial, rfl⟩

theorem someSpaces_eq_some {text rest : List Char} {result : Unit} :
    someSpaces text = some (result, rest) ↔
      ∃ blanks, text = blanks ++ rest ∧ blanks ≠ [] ∧ (∀ char ∈ blanks, isSpace char = true) ∧
        Ends isSpace rest := by
  simp only [someSpaces, bind_eq_some, someRun_eq_some, pure_eq_some]
  constructor
  · rintro ⟨blanks, after, taken, _, rfl⟩
    exact ⟨blanks, taken⟩
  · rintro ⟨blanks, taken⟩
    exact ⟨blanks, rest, taken, trivial, rfl⟩

theorem word_eq_some {text rest : List Char} {name : String} :
    word text = some (name, rest) ↔
      text = name.toList ++ rest ∧ IsWord name.toList ∧ Ends isWord rest := by
  simp only [word, map_eq_some, someRun_eq_some, IsWord]
  constructor
  · rintro ⟨inside, ⟨rfl, nonempty, isRun, ends⟩, rfl⟩
    simpa using ⟨⟨nonempty, isRun⟩, ends⟩
  · rintro ⟨rfl, ⟨nonempty, isRun⟩, ends⟩
    exact ⟨name.toList, ⟨rfl, nonempty, isRun, ends⟩, by simp⟩

/-! ### What a scan takes -/

/-- A text goes on with a rest behind characters of a kind. -/
def Taken (isTaken : Char → Prop) (text rest : List Char) : Prop :=
  ∃ part, text = part ++ rest ∧ ∀ char ∈ part, isTaken char

/-- A scan takes characters of a kind off a text. -/
def Takes (isTaken : Char → Prop) (scan : Scan Found) : Prop :=
  ∀ ⦃text rest : List Char⦄ ⦃found : Found⦄, scan text = some (found, rest) →
    Taken isTaken text rest

variable {isTaken : Char → Prop}

theorem Taken.refl (text : List Char) : Taken isTaken text text := ⟨[], rfl, by simp⟩

theorem Taken.trans {text between rest : List Char} (first : Taken isTaken text between)
    (second : Taken isTaken between rest) : Taken isTaken text rest := by
  rcases first with ⟨before, rfl, isBefore⟩
  rcases second with ⟨after, rfl, isAfter⟩
  refine ⟨before ++ after, by rw [List.append_assoc], ?_⟩
  intro char mem
  rcases List.mem_append.1 mem with mem | mem
  · exact isBefore char mem
  · exact isAfter char mem

theorem Taken.suffix {text rest : List Char} (taken : Taken isTaken text rest) : rest <:+ text := by
  rcases taken with ⟨part, rfl, _⟩
  exact List.suffix_append part rest

/-- Whatever a scan takes, it takes characters. -/
theorem Takes.chars {scan : Scan Found} (takes : Takes isTaken scan) :
    Takes (fun _ => True) scan := by
  intro text rest found read
  rcases takes read with ⟨part, split, _⟩
  exact ⟨part, split, fun _ _ => trivial⟩

theorem Takes.bind {Other : Type} {scan : Scan Found} {more : Found → Scan Other}
    (takes : Takes isTaken scan) (takesMore : ∀ found, Takes isTaken (more found)) :
    Takes isTaken (scan >>= more) := by
  intro text rest result read
  rcases bind_eq_some.1 read with ⟨found, after, first, second⟩
  exact (takes first).trans (takesMore found second)

theorem takes_pure (found : Found) : Takes isTaken (pure found : Scan Found) := by
  intro text rest result read
  rcases pure_eq_some.1 read with ⟨_, rfl⟩
  exact Taken.refl text

theorem Takes.orElse {first second : Scan Found} (takesFirst : Takes isTaken first)
    (takesSecond : Takes isTaken second) : Takes isTaken (first <|> second) := by
  intro text rest result read
  rcases orElse_eq_some.1 read with read | ⟨_, read⟩
  · exact takesFirst read
  · exact takesSecond read

theorem takes_one {accepts : Char → Bool} (accepted : ∀ char, accepts char = true → isTaken char) :
    Takes isTaken (one accepts) := by
  intro text rest char read
  rcases one_eq_some.1 read with ⟨rfl, isAccepted⟩
  exact ⟨[char], rfl, by simpa using accepted char isAccepted⟩

theorem takes_mark {char : Char} (isMark : isTaken char) : Takes isTaken (mark char) := by
  intro text rest _ read
  exact ⟨[char], mark_eq_some.1 read, by simpa using isMark⟩

theorem takes_keyword {name : String}
    (letters : ∀ written, IsSpelling name written → ∀ char ∈ written, isTaken char) :
    Takes isTaken (keyword name) := by
  intro text rest _ read
  rcases keyword_eq_some.1 read with ⟨written, spelled, split⟩
  exact ⟨written, split, letters written spelled⟩

theorem takes_run {isInside : Char → Bool} (inside : ∀ char, isInside char = true → isTaken char) :
    Takes isTaken (run isInside) := by
  intro text rest part read
  rcases run_eq_some.1 read with ⟨split, isRun, _⟩
  exact ⟨part, split, fun char mem => inside char (isRun char mem)⟩

theorem takes_spaces (spaces : ∀ char, isSpace char = true → isTaken char) :
    Takes isTaken Scan.spaces :=
  (takes_run spaces).bind fun _ => takes_pure _

theorem takes_someSpaces (spaces : ∀ char, isSpace char = true → isTaken char) :
    Takes isTaken someSpaces := by
  intro text rest _ read
  rcases someSpaces_eq_some.1 read with ⟨blanks, split, _, isBlanks, _⟩
  exact ⟨blanks, split, fun char mem => spaces char (isBlanks char mem)⟩

theorem takes_word (inside : ∀ char, isWord char = true → isTaken char) : Takes isTaken word := by
  intro text rest name read
  rcases word_eq_some.1 read with ⟨split, ⟨_, isRun⟩, _⟩
  exact ⟨name.toList, split, fun char mem => inside char (isRun char mem)⟩

/-- A scan meets a mark before any semicolon. -/
def Meets (guard : Char) (scan : Scan Found) : Prop :=
  ∀ ⦃text rest : List Char⦄ ⦃found : Found⦄, scan text = some (found, rest) →
    ∃ before after, text = before ++ guard :: after ∧ ';' ∉ before

variable {Other : Type} {guard : Char}

theorem meets_mark (guard : Char) : Meets guard (mark guard) := by
  intro text rest _ read
  exact ⟨[], rest, mark_eq_some.1 read, List.not_mem_nil⟩

theorem Meets.bind {scan : Scan Found} (meets : Meets guard scan) (more : Found → Scan Other) :
    Meets guard (scan >>= more) := by
  intro text rest result read
  rcases bind_eq_some.1 read with ⟨found, after, first, _⟩
  exact meets first

/-- A mark is still met behind characters that are no semicolon. -/
theorem Takes.meets {scan : Scan Found} {more : Found → Scan Other} (takes : Takes (· ≠ ';') scan)
    (meets : ∀ found, Meets guard (more found)) : Meets guard (scan >>= more) := by
  intro text rest result read
  rcases bind_eq_some.1 read with ⟨found, between, first, second⟩
  rcases takes first with ⟨part, rfl, noEnd⟩
  rcases meets found second with ⟨before, after, rfl, noEndBefore⟩
  refine ⟨part ++ before, after, by rw [List.append_assoc], ?_⟩
  rw [List.mem_append, not_or]
  exact ⟨fun mem => noEnd ';' mem rfl, noEndBefore⟩

/-! ### Searching -/

theorem search_eq_some {scan : Scan Found} {text : List Char} {found : Found}
    (isFound : search scan text = some found) :
    ∃ suffix rest, scan suffix = some (found, rest) := by
  induction text with
  | nil =>
    simp only [search, Option.map_eq_some_iff] at isFound
    rcases isFound with ⟨⟨_, rest⟩, read, rfl⟩
    exact ⟨[], rest, read⟩
  | cons char text ih =>
    unfold search at isFound
    split at isFound
    · rename_i first rest read
      cases isFound
      exact ⟨_, rest, read⟩
    · exact ih isFound

theorem of_mem_all {scan : Scan Found} {text : List Char} {found : Found}
    (mem : found ∈ all scan text) : ∃ suffix rest, scan suffix = some (found, rest) := by
  fun_induction all scan text with
  | case1 => simp at mem
  | case2 char text first rest read ih =>
    rcases List.mem_cons.mp mem with rfl | more
    · exact ⟨_, rest, read⟩
    · exact ih more
  | case3 char text failed ih => exact ih mem

end Scan

end Schemagram
