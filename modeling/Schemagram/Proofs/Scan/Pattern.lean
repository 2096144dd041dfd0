import Mathlib.Data.List.Monad
import Schemagram.Proofs.Scan.Forms

/-!
# Patterns that are tried way by way

A pattern may be read off a text in several ways: a run may be longer or shorter, and a part of a
form may be there or not.  The ways are tried in a fixed order, and the first one that goes through
the whole pattern counts.

`first` is the scan for that way.  A run need not give anything back where the pattern cannot go on
with a character of the run: `Refuses` says so, and the lemmas `first_…_bind` take one part after
the other off a pattern, which leaves a scan that never tries a second way.
-/

namespace Schemagram

theorem Scan.bind_of_some {Found Other : Type} {scan : Scan Found} {more : Found → Scan Other}
    {found : Found} {text rest : List Char} (read : scan text = some (found, rest)) :
    (scan >>= more) text = more found rest := by
  simp [bind, StateT.bind, read]

/-- The ways to read a form off the beginning of a text, in the order in which they are tried. -/
abbrev Pattern := StateT (List Char) List

namespace Pattern

open Text

variable {Found Other : Type}

/-- A form that can be read in one way at most. -/
def ofScan (scan : Scan Found) : Pattern Found := fun text => (scan text).toList

/-- A run of a class that takes as much as it can, and gives it back character by character. -/
def run (isInside : Char → Bool) : Pattern (List Char)
  | [] => [([], [])]
  | char :: rest =>
    if isInside char then (run isInside rest).map (fun (more, after) => (char :: more, after)) ++
      [([], char :: rest)]
    else [([], char :: rest)]

/-- A run of a class that takes as little as it can, and goes on character by character. -/
def shortRun (isInside : Char → Bool) : Pattern (List Char)
  | [] => [([], [])]
  | char :: rest =>
    ([], char :: rest) ::
      if isInside char then (shortRun isInside rest).map fun (more, after) =>
        (char :: more, after) else []

def someRun (isInside : Char → Bool) : Pattern (List Char) := do
  let first ← ofScan (Scan.one isInside)
  let more ← run isInside
  return first :: more

/-- White space, if there is any. -/
def spaces : Pattern Unit := do
  let _ ← run isSpace

/-- White space, of which there is some. -/
def someSpaces : Pattern Unit := do
  let _ ← someRun isSpace

def word : Pattern String := String.ofList <$> someRun isWord

/-- A form that is read if it can be, with what stands for a missing one. -/
def maybe (pattern : Pattern Found) (missing : Found) : Pattern Found := pattern <|> pure missing

/-- The way that counts. -/
def first (pattern : Pattern Found) : Scan Found := fun text => (pattern text).head?

/-! ### Parts of a pattern -/

theorem bind_apply (pattern : Pattern Found) (more : Found → Pattern Other) (text : List Char) :
    (pattern >>= more) text = (pattern text).flatMap fun way => more way.1 way.2 := rfl

theorem pure_apply (found : Found) (text : List Char) :
    (pure found : Pattern Found) text = [(found, text)] := rfl

theorem orElse_apply (pattern other : Pattern Found) (text : List Char) :
    (pattern <|> other) text = pattern text ++ other text := rfl

@[simp]
theorem first_pure (found : Found) : first (pure found) = pure found := rfl

@[simp]
theorem first_ofScan (scan : Scan Found) : first (ofScan scan) = scan := by
  funext text
  simp [first, ofScan]

theorem first_orElse (pattern other : Pattern Found) :
    first (pattern <|> other) = (first pattern <|> first other) := by
  funext text
  have tried : (first pattern <|> first other) text = (first pattern text <|> first other text) :=
    rfl
  rw [tried]
  simp [first, orElse_apply]

@[simp]
theorem first_maybe (pattern : Pattern Found) (missing : Found) :
    first (maybe pattern missing) = (first pattern <|> pure missing) := first_orElse _ _

/-- Nothing has to be tried again behind what is read in one way. -/
theorem first_ofScan_bind (scan : Scan Found) (more : Found → Pattern Other) :
    first (ofScan scan >>= more) = scan >>= fun found => first (more found) := by
  funext text
  change (((scan text).toList).flatMap _).head? = (scan text >>= _)
  cases scan text <;> simp [first]

/-! ### Patterns that can always be read -/

/-- There is a way through any text. -/
def Total (pattern : Pattern Found) : Prop := ∀ text, pattern text ≠ []

theorem total_run (isInside : Char → Bool) : Total (run isInside) := by
  intro text
  cases text with
  | nil => simp [run]
  | cons char rest =>
    rw [run]
    split <;> simp

theorem total_pure (found : Found) : Total (pure found) := by
  intro text
  simp [pure_apply]

theorem total_maybe (pattern : Pattern Found) (missing : Found) :
    Total (maybe pattern missing) := by
  intro text
  simp [maybe, orElse_apply, pure_apply]

theorem Total.bind {pattern : Pattern Found} {more : Found → Pattern Other} (total : Total pattern)
    (totalMore : ∀ found, Total (more found)) : Total (pattern >>= more) := by
  intro text
  rcases List.exists_cons_of_ne_nil (total text) with ⟨way, ways, split⟩
  simp [bind_apply, split, totalMore way.1 way.2]

theorem total_spaces : Total spaces := (total_run isSpace).bind fun _ => total_pure ()

/-- Nothing has to be tried again before what can always be read. -/
theorem first_bind_of_total {pattern : Pattern Found} {more : Found → Pattern Other}
    (total : ∀ found, Total (more found)) :
    first (pattern >>= more) = first pattern >>= fun found => first (more found) := by
  funext text
  change ((pattern text).flatMap _).head? = ((pattern text).head? >>= _)
  cases pattern text with
  | nil => rfl
  | cons way ways =>
    rcases List.exists_cons_of_ne_nil (total way.1 way.2) with ⟨next, others, split⟩
    simp [first, split]

theorem first_map (change : Found → Other) (pattern : Pattern Found) :
    first (change <$> pattern) = change <$> first pattern := by
  rw [map_eq_pure_bind, map_eq_pure_bind]
  apply first_bind_of_total
  intro found
  exact total_pure _

/-- The longest run is tried first. -/
@[simp]
theorem first_run (isInside : Char → Bool) : first (run isInside) = Scan.run isInside := by
  funext text
  induction text with
  | nil => rfl
  | cons char rest ih =>
    have longest : (run isInside rest).head? =
      some (rest.takeWhile isInside, rest.dropWhile isInside) := ih
    by_cases inside : isInside char = true
    · simp [first, run, Scan.run, inside, longest]
    · simp [first, run, Scan.run, inside]

/-! ### Runs that are extended -/

theorem first_shortRun_bind_nil (isInside : Char → Bool) (more : List Char → Pattern Other) :
    first (shortRun isInside >>= more) [] = first (more []) [] := by
  simp [first, bind_apply, shortRun]

/-- A run is extended by a character of its class if the pattern does not go on in front of it. -/
theorem first_shortRun_bind_cons (isInside : Char → Bool) (more : List Char → Pattern Other)
    (char : Char) (rest : List Char) :
    first (shortRun isInside >>= more) (char :: rest) = (first (more []) (char :: rest)).or
      (if isInside char then first (shortRun isInside >>= fun found => more (char :: found)) rest
        else none) := by
  by_cases inside : isInside char = true
  · simp [first, bind_apply, shortRun, inside, List.flatMap_map]
  · simp [first, bind_apply, shortRun, inside]

/-! ### Runs that give nothing back -/

/-- No way to read a form begins with a character of a class. -/
def Refuses (isInside : Char → Bool) (pattern : Pattern Found) : Prop :=
  ∀ ⦃char : Char⦄, isInside char = true → ∀ rest, pattern (char :: rest) = []

variable {isInside : Char → Bool}

theorem refuses_ofScan {scan : Scan Found}
    (refused : ∀ char, isInside char = true → ∀ rest, scan (char :: rest) = none) :
    Refuses isInside (ofScan scan) := by
  intro char inside rest
  simp [ofScan, refused char inside rest]

theorem Refuses.bind {pattern : Pattern Found} (refuses : Refuses isInside pattern)
    (more : Found → Pattern Other) :
    Refuses isInside (pattern >>= more) := by
  intro char inside rest
  simp [bind_apply, refuses inside rest]

theorem refuses_mark {char : Char} (outside : isInside char = false) :
    Refuses isInside (ofScan (Scan.mark char)) := by
  apply refuses_ofScan
  intro other inside rest
  have differ : other ≠ char := by
    rintro rfl
    simp [inside] at outside
  exact Scan.bind_eq_none (by simp [Scan.one, differ])

theorem refuses_someRun {accepts : Char → Bool}
    (disjoint : ∀ char, isInside char = true → accepts char = false) :
    Refuses isInside (someRun accepts) := by
  apply Refuses.bind
  apply refuses_ofScan
  intro char inside rest
  simp [Scan.one, disjoint char inside]

/-- What follows a run that may be empty decides with the run. -/
theorem Refuses.run_bind {accepts : Char → Bool}
    (disjoint : ∀ char, isInside char = true → accepts char = false)
    {more : List Char → Pattern Other} (refuses : Refuses isInside (more [])) :
    Refuses isInside (run accepts >>= more) := by
  intro char inside rest
  simp [bind_apply, run, disjoint char inside, refuses inside rest]

theorem Refuses.maybe_bind {pattern : Pattern Found} {missing : Found}
    {more : Found → Pattern Other} (refuses : Refuses isInside pattern)
    (refusesMore : Refuses isInside (more missing)) :
    Refuses isInside (maybe pattern missing >>= more) := by
  intro char inside rest
  simp [bind_apply, maybe, orElse_apply, pure_apply, refuses inside rest, refusesMore inside rest]

/-- The ways behind a shorter run are none, so that the longest one is the only one that counts. -/
theorem run_bind_apply {more : List Char → Pattern Other}
    (refuses : ∀ found, Refuses isInside (more found)) (text : List Char) :
    (run isInside >>= more) text = more (text.takeWhile isInside) (text.dropWhile isInside) := by
  induction text generalizing more with
  | nil => simp [bind_apply, run]
  | cons char rest ih =>
    by_cases inside : isInside char = true
    · have longer := @ih (fun found => more (char :: found)) fun found => refuses (char :: found)
      simp only [bind_apply] at longer
      simp [bind_apply, run, inside, refuses [] inside rest, List.flatMap_map, longer]
    · simp [bind_apply, run, inside]

theorem first_run_bind {more : List Char → Pattern Other}
    (refuses : ∀ found, Refuses isInside (more found)) :
    first (run isInside >>= more) = Scan.run isInside >>= fun found => first (more found) := by
  funext text
  rw [first, run_bind_apply refuses]
  rfl

/-- A run of at least one character is a character and a run. -/
theorem someRun_eq (isInside : Char → Bool) :
    Scan.someRun isInside = do
      let first ← Scan.one isInside
      let more ← Scan.run isInside
      return first :: more := by
  funext text
  cases text with
  | nil => rfl
  | cons char rest =>
    by_cases inside : isInside char = true
    · simp [Scan.someRun, Scan.one, Scan.run, inside, bind, StateT.bind]
      rfl
    · simp [Scan.someRun, Scan.one, inside, bind, StateT.bind]

@[simp]
theorem first_someRun (isInside : Char → Bool) :
    first (someRun isInside) = Scan.someRun isInside := by
  rw [someRun, someRun_eq, first_ofScan_bind]
  apply bind_congr
  intro char
  rw [first_bind_of_total fun _ => total_pure _, first_run]
  simp

theorem first_someRun_bind {more : List Char → Pattern Other}
    (refuses : ∀ found, Refuses isInside (more found)) :
    first (someRun isInside >>= more) = Scan.someRun isInside >>= fun found =>
      first (more found) := by
  simp only [someRun, someRun_eq, bind_assoc, pure_bind]
  rw [first_ofScan_bind]
  apply bind_congr
  intro char
  exact first_run_bind fun found => refuses (char :: found)

theorem first_spaces_bind {more : Unit → Pattern Other} (refuses : Refuses isSpace (more ())) :
    first (spaces >>= more) = Scan.spaces >>= fun _ => first (more ()) := by
  simp only [spaces, Scan.spaces, bind_assoc, pure_bind]
  exact first_run_bind fun _ => refuses

theorem first_someSpaces_bind {more : Unit → Pattern Other} (refuses : Refuses isSpace (more ())) :
    first (someSpaces >>= more) = Scan.someSpaces >>= fun _ => first (more ()) := by
  simp only [someSpaces, Scan.someSpaces, bind_assoc, pure_bind]
  exact first_someRun_bind fun _ => refuses

theorem first_word_bind {more : String → Pattern Other}
    (refuses : ∀ name, Refuses isWord (more name)) :
    first (word >>= more) = Scan.word >>= fun name => first (more name) := by
  simp only [word, Scan.word, map_eq_pure_bind, bind_assoc, pure_bind]
  exact first_someRun_bind fun found => refuses (String.ofList found)

/-- A form that may be missing is not given up again where the pattern cannot go on without it. -/
theorem first_maybe_bind {pattern : Pattern Found} {scan : Scan Found} {missing : Found}
    {more : Found → Pattern Other}
    (decided : first (pattern >>= more) = scan >>= fun found => first (more found))
    (needed : ∀ text, scan text ≠ none → more missing text = []) :
    first (maybe pattern missing >>= more) = (scan <|> pure missing) >>= fun found =>
      first (more found) := by
  funext text
  have ways : (maybe pattern missing >>= more) text = (pattern >>= more) text ++
      more missing text := by
    simp [bind_apply, maybe, orElse_apply, pure_apply]
  have firstWay := congrFun decided text
  rw [first] at firstWay
  rw [first, ways, List.head?_append, firstWay]
  change _ = ((scan text <|> some (missing, text)) >>= fun way : Found × List Char =>
    first (more way.1) way.2)
  change ((scan text >>= fun way : Found × List Char => first (more way.1) way.2).or _) = _
  cases read : scan text with
  | none => simp [first]
  | some way => simp [needed text (by simp [read])]

end Pattern

end Schemagram
