import Schemagram.Proofs.Scan.Search

/-!
# Scans that stop at a mark

A scan that accepts a mark nowhere does the same on a text up to the mark as on the text that ends
there.  What it finds in a text with marks in it is therefore what it finds between them.
-/

namespace Schemagram.Scan

open Text

variable {Found Other : Type} {stop : Char} {scan : Scan Found}

/-- A scan finds in a text up to a mark what it finds in the text that ends there, and leaves the
mark. -/
structure StopsAt (stop : Char) (scan : Scan Found) : Prop where
  same : ∀ {part : List Char}, stop ∉ part → ∀ rest, scan (part ++ stop :: rest) =
    (scan part).map fun (found, left) => (found, left ++ stop :: rest)
  suffix : ∀ {text rest : List Char} {found : Found}, scan text = some (found, rest) → rest <:+ text

theorem stopsAt_pure (stop : Char) (found : Found) : StopsAt stop (pure found : Scan Found) where
  same _ _ := rfl
  suffix read := by
    rcases pure_eq_some.1 read with ⟨_, rfl⟩
    exact List.suffix_refl _

theorem StopsAt.bind {next : Found → Scan Other} (stops : StopsAt stop scan)
    (stopsNext : ∀ found, StopsAt stop (next found)) : StopsAt stop (scan >>= next) where
  same := by
    intro part absent rest
    change (scan (part ++ stop :: rest) >>= fun found => next found.1 found.2) =
      (scan part >>= fun found => next found.1 found.2).map _
    rw [stops.same absent]
    cases read : scan part with
    | none => rfl
    | some found =>
      have absentLeft : stop ∉ found.2 := fun mem => absent ((stops.suffix read).subset mem)
      exact (stopsNext found.1).same absentLeft rest
  suffix read := by
    rcases bind_eq_some.1 read with ⟨found, between, first, second⟩
    exact ((stopsNext found).suffix second).trans (stops.suffix first)

theorem StopsAt.orElse {other : Scan Found} (stops : StopsAt stop scan)
    (stopsOther : StopsAt stop other) :
    StopsAt stop (scan <|> other) where
  same := by
    intro part absent rest
    change (scan (part ++ stop :: rest) <|> other (part ++ stop :: rest)) =
      (scan part <|> other part).map _
    rw [stops.same absent, stopsOther.same absent]
    cases scan part <;> rfl
  suffix read := by
    rcases orElse_eq_some.1 read with read | ⟨_, read⟩
    · exact stops.suffix read
    · exact stopsOther.suffix read

theorem StopsAt.optionally {scan : Scan Unit} (stops : StopsAt stop scan) :
    StopsAt stop (optionally scan) :=
  stops.orElse (stopsAt_pure stop ())

theorem stopsAt_one {accepts : Char → Bool} (refused : accepts stop = false) :
    StopsAt stop (one accepts) where
  same := by
    intro part absent rest
    cases part with
    | nil => simp [one, refused]
    | cons char more =>
      by_cases accepted : accepts char = true <;> simp [one, accepted]
  suffix read := by
    rcases one_eq_some.1 read with ⟨rfl, _⟩
    exact List.suffix_cons _ _

theorem stopsAt_mark {char : Char} (other : char ≠ stop) : StopsAt stop (mark char) :=
  (stopsAt_one (decide_eq_false (Ne.symm other))).bind fun _ => stopsAt_pure stop ()

theorem stopsAt_literal {same : Char → Char → Bool} {expected : List Char}
    (refused : ∀ letter ∈ expected, same letter stop = false) :
    StopsAt stop (literal same expected) := by
  induction expected with
  | nil => exact stopsAt_pure stop ()
  | cons letter more ih =>
    exact (stopsAt_one (refused letter List.mem_cons_self)).bind fun _ =>
      ih fun other mem => refused other (List.mem_cons_of_mem letter mem)

/-- A run that a mark is no part of ends at the mark. -/
theorem run_append_cons {isInside : Char → Bool} (outside : isInside stop = false)
    (part rest : List Char) :
    (part ++ stop :: rest).takeWhile isInside = part.takeWhile isInside ∧
      (part ++ stop :: rest).dropWhile isInside = part.dropWhile isInside ++ stop :: rest := by
  induction part with
  | nil => simp [outside]
  | cons char more ih => by_cases inside : isInside char = true <;> simp [inside, ih]

theorem stopsAt_run {isInside : Char → Bool} (outside : isInside stop = false) :
    StopsAt stop (run isInside) where
  same _ rest := by
    rw [run, run, (run_append_cons outside _ rest).1, (run_append_cons outside _ rest).2]
    rfl
  suffix read := by
    rcases run_eq_some.1 read with ⟨rfl, _⟩
    exact List.suffix_append _ _

theorem stopsAt_someRun {isInside : Char → Bool} (outside : isInside stop = false) :
    StopsAt stop (someRun isInside) where
  same _ rest := by
    rw [someRun, someRun, (run_append_cons outside _ rest).1, (run_append_cons outside _ rest).2]
    split <;> rfl
  suffix read := by
    rcases someRun_eq_some.1 read with ⟨rfl, _⟩
    exact List.suffix_append _ _

theorem stopsAt_spaces (noSpace : isSpace stop = false) : StopsAt stop spaces :=
  (stopsAt_run noSpace).bind fun _ => stopsAt_pure stop ()

theorem stopsAt_word (noWord : isWord stop = false) : StopsAt stop word := by
  rw [word, map_eq_pure_bind]
  exact (stopsAt_someRun noWord).bind fun _ => stopsAt_pure stop _

theorem stopsAt_dotted (noWord : isWord stop = false) (noDot : '.' ≠ stop) : StopsAt stop dotted :=
  (stopsAt_word noWord).bind fun _ => (stopsAt_mark noDot).bind fun _ =>
    (stopsAt_word noWord).bind fun _ => stopsAt_pure stop _

/-- What is found in a text with a mark in it is what is found on both sides of the mark. -/
theorem StopsAt.all_append_cons (stops : StopsAt stop scan) (nothing : scan [] = none)
    {part : List Char} (absent : stop ∉ part) (rest : List Char) :
    all scan (part ++ stop :: rest) = all scan part ++ all scan rest := by
  have skipped : scan (stop :: rest) = none := by
    have atEnd := stops.same (List.not_mem_nil (a := stop)) rest
    rwa [nothing] at atEnd
  fun_induction all scan part with
  | case1 => exact all_cons_of_none skipped
  | case2 char part found left read ih =>
    have readAll : scan (char :: (part ++ stop :: rest)) = some (found, left ++ stop :: rest) := by
      have atFirst := stops.same absent rest
      rwa [read] at atFirst
    simp only [dite_eq_ite] at ih
    rw [List.cons_append, all, readAll]
    simp only [List.length_append, List.length_cons, Nat.add_le_add_iff_right, List.cons_append]
    split at ih
    · rename_i shorter
      rw [if_pos shorter, if_pos shorter, ih fun mem => absent ((stops.suffix read).subset mem)]
    · rename_i longer
      rw [if_neg longer, if_neg longer, ih fun mem => absent (List.mem_cons_of_mem char mem)]
  | case3 char part failed ih =>
    have failedAll : scan (char :: (part ++ stop :: rest)) = none := by
      have atFirst := stops.same absent rest
      rwa [failed] at atFirst
    exact (all_cons_of_none failedAll).trans (ih fun mem => absent (List.mem_cons_of_mem char mem))

/-- Wherever a text is cut at a mark, what is found in it is what is found on both sides of the
cut. -/
theorem StopsAt.all_append (stops : StopsAt stop scan) (nothing : scan [] = none)
    (part rest : List Char) :
    all scan (part ++ stop :: rest) = all scan part ++ all scan rest := by
  induction size : part.length using Nat.strongRecOn generalizing part with
  | ind length ih =>
    by_cases isCut : stop ∈ part
    · rcases List.eq_append_cons_of_mem isCut with ⟨first, more, rfl, absent⟩
      have shorter : more.length < length := by
        rw [← size, List.length_append, List.length_cons]
        omega
      rw [List.append_assoc, List.cons_append, stops.all_append_cons nothing absent,
        ih _ shorter more rfl, stops.all_append_cons nothing absent, List.append_assoc]
    · exact stops.all_append_cons nothing isCut rest

end Schemagram.Scan
