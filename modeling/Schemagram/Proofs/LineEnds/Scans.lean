import Schemagram.Proofs.LineEnds.Texts
import Schemagram.Proofs.Scan.Search

/-!
# Scans of a text with returns

A scan that treats both characters of a line end alike finds in a text with returns what it finds in
the text, up to returns in the find, and leaves what it leaves of the text, with returns: `Widens`.
Each combinator keeps this.

A text with returns has one place more for each line end, the one between its two characters.  All
finds are the same when a scan does the same at both places of a line end, and does not stand still
there: `PassesLineEnds`.
-/

namespace Schemagram

theorem Text.Ends.withReturns {isInside : Char → Bool} {rest : List Char}
    (ends : Ends isInside rest) (noReturn : isInside '\r' = false) :
    Ends isInside (withReturns rest) := by
  cases rest with
  | nil => exact ends_nil isInside
  | cons char more =>
    by_cases isLine : char = '\n'
    · rw [isLine, withReturns_line, ends_cons]
      exact noReturn
    · rw [withReturns_cons isLine, ends_cons]
      exact ends_cons.1 ends

namespace Scan

open Text

variable {Found Other : Type} {scan : Scan Found} {widen : Found → Found}

/-! ### Finds -/

/-- Of a text with returns, `other` finds and leaves what `scan` finds and leaves of the text, with
returns. -/
structure Widens (widen : Found → Found) (scan other : Scan Found) : Prop where
  same : ∀ text, other (withReturns text) = (scan text).map fun (found, rest) =>
    (widen found, withReturns rest)
  suffix : ∀ {text rest : List Char} {found : Found}, scan text = some (found, rest) → rest <:+ text

theorem widens_pure (widen : Found → Found) (found : Found) :
    Widens widen (pure found : Scan Found) (pure (widen found)) where
  same _ := rfl
  suffix read := by
    rcases pure_eq_some.1 read with ⟨_, rfl⟩
    exact List.suffix_refl _

theorem Widens.bind {other : Scan Found} {widenMore : Other → Other}
    {next last : Found → Scan Other} (widens : Widens widen scan other)
    (widensMore : ∀ found, Widens widenMore (next found) (last (widen found))) :
    Widens widenMore (scan >>= next) (other >>= last) where
  same text := by
    change (other (withReturns text) >>= fun found => last found.1 found.2) =
      (scan text >>= fun found => next found.1 found.2).map _
    rw [widens.same]
    cases scan text with
    | none => rfl
    | some found => exact (widensMore found.1).same found.2
  suffix read := by
    rcases bind_eq_some.1 read with ⟨found, between, first, second⟩
    exact ((widensMore found).suffix second).trans (widens.suffix first)

theorem Widens.orElse {other second last : Scan Found} (widens : Widens widen scan other)
    (widensMore : Widens widen second last) : Widens widen (scan <|> second) (other <|> last) where
  same text := by
    change (other (withReturns text) <|> last (withReturns text)) =
      (scan text <|> second text).map _
    rw [widens.same, widensMore.same]
    cases scan text <;> rfl
  suffix read := by
    rcases orElse_eq_some.1 read with read | ⟨_, read⟩
    · exact widens.suffix read
    · exact widensMore.suffix read

theorem Widens.optionally {scan : Scan Unit} (widens : Widens id scan scan) :
    Widens id (optionally scan) (optionally scan) :=
  widens.orElse (widens_pure id ())

/-- What matters is only how the finds themselves change. -/
theorem Widens.congr {other : Scan Found} {change : Found → Found}
    (widens : Widens widen scan other)
    (same : ∀ {text rest found}, scan text = some (found, rest) → widen found = change found) :
    Widens change scan other where
  same text := by
    rw [widens.same]
    cases read : scan text with
    | none => rfl
    | some found => simp only [Option.map_some, same read]
  suffix := widens.suffix

theorem widens_one {accepts : Char → Bool} (noReturn : accepts '\r' = false)
    (noLine : accepts '\n' = false) :
    Widens id (one accepts) (one accepts) where
  same text := by
    cases text with
    | nil => rfl
    | cons char rest =>
      by_cases isLine : char = '\n'
      · simp [isLine, withReturns_line, one, noReturn, noLine]
      · by_cases accepted : accepts char = true <;> simp [withReturns_cons isLine, one, accepted]
  suffix read := by
    rcases one_eq_some.1 read with ⟨rfl, _⟩
    exact List.suffix_cons _ _

theorem widens_mark {char : Char} (noReturn : char ≠ '\r') (noLine : char ≠ '\n') :
    Widens id (mark char) (mark char) :=
  (widens_one (decide_eq_false noReturn.symm) (decide_eq_false noLine.symm)).bind fun _ =>
    widens_pure id ()

/-- A word that no character of a line end is a letter of. -/
def IsOnLine (same : Char → Char → Bool) (word : List Char) : Prop :=
  ∀ letter ∈ word, same letter '\r' = false ∧ same letter '\n' = false

instance (same : Char → Char → Bool) (word : List Char) : Decidable (IsOnLine same word) :=
  inferInstanceAs (Decidable (∀ letter ∈ word, same letter '\r' = false ∧ same letter '\n' = false))

theorem widens_literal {same : Char → Char → Bool} {word : List Char}
    (onLine : IsOnLine same word) :
    Widens id (literal same word) (literal same word) := by
  induction word with
  | nil => exact widens_pure id ()
  | cons letter more ih =>
    rw [IsOnLine, List.forall_mem_cons] at onLine
    exact (widens_one onLine.1.1 onLine.1.2).bind fun _ => ih onLine.2

theorem widens_keyword {word : String} (onLine : IsOnLine isSameLetter word.toList) :
    Widens id (keyword word) (keyword word) :=
  widens_literal onLine

/-- A keyword stands on one line. -/
theorem takes_keyword_onLine {word : String} (onLine : IsOnLine isSameLetter word.toList) :
    Takes (· ≠ '\n') (keyword word) := by
  refine takes_keyword fun written spelled char mem => ?_
  rintro rfl
  rcases spelled.exists_letter mem with ⟨letter, isLetter, same⟩
  rw [(onLine letter isLetter).2] at same
  cases same

theorem widens_run {isInside : Char → Bool} (alike : isInside '\r' = isInside '\n') :
    Widens withReturns (run isInside) (run isInside) where
  same text := by
    rw [run, run, (run_withReturns alike text).1, (run_withReturns alike text).2]
    rfl
  suffix read := by
    rcases run_eq_some.1 read with ⟨rfl, _⟩
    exact List.suffix_append _ _

theorem widens_someRun {isInside : Char → Bool} (alike : isInside '\r' = isInside '\n') :
    Widens withReturns (someRun isInside) (someRun isInside) where
  same text := by
    rw [someRun, someRun, (run_withReturns alike text).1, (run_withReturns alike text).2]
    cases inside : text.takeWhile isInside with
    | nil => rfl
    | cons char more =>
      cases wide : withReturns (char :: more) with
      | nil => simp [withReturns_eq_nil] at wide
      | cons other others => simp [wide]
  suffix read := by
    rcases someRun_eq_some.1 read with ⟨rfl, _⟩
    exact List.suffix_append _ _

/-- A run of a class that no character of a line end belongs to stays as it is. -/
theorem widens_someRun_id {isInside : Char → Bool} (noReturn : isInside '\r' = false)
    (noLine : isInside '\n' = false) : Widens id (someRun isInside) (someRun isInside) := by
  refine (widens_someRun (noReturn.trans noLine.symm)).congr fun read => ?_
  rcases someRun_eq_some.1 read with ⟨_, _, isRun, _⟩
  exact withReturns_of_not_mem (not_mem_of_run isRun noLine)

theorem widens_spaces : Widens id spaces spaces :=
  (widens_run rfl).bind fun _ => widens_pure id ()

theorem widens_someSpaces : Widens id someSpaces someSpaces :=
  (widens_someRun rfl).bind fun _ => widens_pure id ()

theorem widens_word : Widens id word word := by
  rw [word, map_eq_pure_bind]
  exact (widens_someRun_id rfl rfl).bind fun _ => widens_pure id _

theorem widens_dotted : Widens id dotted dotted :=
  widens_word.bind fun _ => (widens_mark (by decide) (by decide)).bind fun _ =>
    widens_word.bind fun _ => widens_pure id _

theorem widens_precision {second : Scan (List Char)} (widens : Widens id second second) :
    Widens id (precision second) (precision second) :=
  (widens_mark (by decide) (by decide)).bind fun _ => (widens_someRun_id rfl rfl).bind fun _ =>
    widens.bind fun _ => (widens_mark (by decide) (by decide)).bind fun _ => widens_pure id _

theorem widens_secondDigits : Widens id secondDigits secondDigits :=
  ((widens_mark (by decide) (by decide)).bind fun _ =>
    (widens_someRun_id rfl rfl).bind fun digits =>
    widens_pure id (',' :: digits)).orElse (widens_pure id [])

theorem widens_type {precision : Scan (List Char)} (widens : Widens id precision precision) :
    Widens id (type precision) (type precision) :=
  widens_word.bind fun _ => (widens.orElse (widens_pure id [])).bind fun _ => widens_pure id _

theorem widens_braces : Widens withReturns braces braces :=
  (widens_mark (by decide) (by decide)).bind fun _ => (widens_run (by decide)).bind fun inside =>
    (widens_mark (by decide) (by decide)).bind fun _ => widens_pure withReturns inside

theorem widens_block {opening : Scan Unit} (widens : Widens id opening opening) :
    Widens (Prod.map id withReturns) (block opening) (block opening) :=
  widens.bind fun _ => widens_someSpaces.bind fun _ => widens_word.bind fun name =>
    widens_spaces.bind fun _ =>
    widens_braces.bind fun inside => widens_pure (Prod.map id withReturns) (name, inside)

/-- Repetitions end where they end in the text, since a find takes something of both texts or of
none. -/
theorem Widens.many (widens : Widens widen scan scan) :
    Widens (List.map widen) (many scan) (many scan) where
  same text := by
    fun_induction Scan.many scan text with
    | case1 text failed =>
      have failedWide := widens.same text
      rw [failed] at failedWide
      rw [Scan.many, failedWide]
      rfl
    | case2 text first rest read shorter ih =>
      have readWide := widens.same text
      rw [read] at readWide
      rw [Scan.many, readWide]
      simp only [Option.map_some, (length_withReturns_lt_iff (widens.suffix read)).2 shorter,
        if_true, ih]
      cases Scan.many scan rest <;> rfl
    | case3 text first rest read longer =>
      have readWide := widens.same text
      rw [read] at readWide
      rw [Scan.many, readWide]
      simp only [Option.map_some, length_withReturns_lt_iff (widens.suffix read), longer, if_false]
      rfl
  suffix := by
    intro text rest found read
    fun_induction Scan.many scan text generalizing found with
    | case1 text failed =>
      cases read
      exact List.suffix_refl _
    | case2 text first between readFirst shorter ih =>
      rcases Option.map_eq_some_iff.1 read with ⟨⟨more, after⟩, readMore, same⟩
      cases same
      exact (ih readMore).trans (widens.suffix readFirst)
    | case3 text first between readFirst longer =>
      cases read
      exact List.suffix_refl _

/-- The text of a find gets returns, too. -/
theorem Widens.withText (widens : Widens widen scan scan) :
    Widens (Prod.map withReturns widen) (withText scan) (withText scan) where
  same text := by
    rw [Scan.withText, Scan.withText, widens.same]
    cases read : scan text with
    | none => rfl
    | some found =>
      rcases widens.suffix read with ⟨part, rfl⟩
      simp [withReturns_append]
  suffix read := by
    rcases Option.map_eq_some_iff.1 read with ⟨⟨_, _⟩, readFound, same⟩
    cases same
    exact widens.suffix readFound

/-- The text of a find that stands on one line stays as it is. -/
theorem Widens.withText_onLine (widens : Widens widen scan scan) (takes : Takes (· ≠ '\n') scan) :
    Widens (Prod.map id widen) (Scan.withText scan) (Scan.withText scan) := by
  refine widens.withText.congr fun {_ _ found} read => ?_
  rcases (withText_eq_some takes).1 read with ⟨readFound, whole⟩
  rcases takes readFound with ⟨part, split, onLine⟩
  have oneLine : '\n' ∉ found.1 := by
    rw [← List.append_cancel_right (split.symm.trans whole)]
    exact fun mem => onLine '\n' mem rfl
  exact Prod.ext (withReturns_of_not_mem oneLine) rfl

/-! ### Places -/

/-- A scan does the same at both characters of a line end, and takes one of them if it succeeds
there. -/
structure PassesLineEnds (scan : Scan Found) : Prop where
  same : ∀ text, scan ('\r' :: '\n' :: text) = scan ('\n' :: text)
  shorter : ∀ {text rest : List Char} {found : Found},
    scan ('\n' :: text) = some (found, rest) → rest.length ≤ text.length

theorem PassesLineEnds.bind {next : Found → Scan Other} {widenMore : Other → Other}
    (passes : PassesLineEnds scan) (widens : ∀ found, Widens widenMore (next found) (next found)) :
    PassesLineEnds (scan >>= next) where
  same text := by
    change (scan ('\r' :: '\n' :: text) >>= fun found => next found.1 found.2) =
      (scan ('\n' :: text) >>= fun found => next found.1 found.2)
    rw [passes.same]
  shorter read := by
    rcases bind_eq_some.1 read with ⟨found, between, first, second⟩
    exact ((widens found).suffix second).length_le.trans (passes.shorter first)

theorem passesLineEnds_spaces : PassesLineEnds spaces where
  same _ := rfl
  shorter {text _ _} read := by
    cases read
    exact (List.dropWhile_suffix (l := text) isSpace).length_le

/-- A scan fails at both characters of a line end. -/
def RefusesLineEnds (scan : Scan Found) : Prop :=
  ∀ text, scan ('\r' :: text) = none ∧ scan ('\n' :: text) = none

theorem RefusesLineEnds.passes (refuses : RefusesLineEnds scan) : PassesLineEnds scan where
  same text := (refuses _).1.trans (refuses text).2.symm
  shorter {text _ _} read := by
    rw [(refuses text).2] at read
    cases read

theorem RefusesLineEnds.bind (refuses : RefusesLineEnds scan) (next : Found → Scan Other) :
    RefusesLineEnds (scan >>= next) := by
  intro text
  exact ⟨bind_eq_none (refuses text).1, bind_eq_none (refuses text).2⟩

theorem RefusesLineEnds.orElse {other : Scan Found} (refuses : RefusesLineEnds scan)
    (refusesOther : RefusesLineEnds other) : RefusesLineEnds (scan <|> other) := by
  intro text
  change (scan _ <|> other _) = none ∧ (scan _ <|> other _) = none
  rw [(refuses text).1, (refuses text).2, (refusesOther text).1, (refusesOther text).2]
  exact ⟨rfl, rfl⟩

theorem refusesLineEnds_keyword {word : String} (nonempty : word ≠ "")
    (onLine : IsOnLine isSameLetter word.toList) :
    RefusesLineEnds (keyword word) := by
  intro text
  rw [keyword]
  cases letters : word.toList with
  | nil => exact absurd (String.toList_eq_nil_iff.1 letters) nonempty
  | cons letter more =>
    rw [letters, IsOnLine, List.forall_mem_cons] at onLine
    exact ⟨bind_eq_none (by simp [one, onLine.1.1]), bind_eq_none (by simp [one, onLine.1.2])⟩

theorem refusesLineEnds_word : RefusesLineEnds word := by
  intro text
  rw [word, map_eq_pure_bind]
  exact ⟨bind_eq_none rfl, bind_eq_none rfl⟩

section optionally

variable {form : Scan Unit} {next : Unit → Scan Other}

/-- A form that may be missing, and that no line end begins, is missing there. -/
theorem RefusesLineEnds.optionally_bind (refuses : RefusesLineEnds form) (text : List Char) :
    (optionally form >>= next) ('\r' :: text) = next () ('\r' :: text) ∧
      (optionally form >>= next) ('\n' :: text) = next () ('\n' :: text) := by
  have missing {chars : List Char} (failed : form chars = none) :
      (optionally form >>= next) chars = next () chars := by
    change ((form chars <|> some ((), chars)) >>= fun found => next found.1 found.2) = next () chars
    rw [failed]
    rfl
  exact ⟨missing (refuses text).1, missing (refuses text).2⟩

theorem RefusesLineEnds.optionally (refuses : RefusesLineEnds form)
    (refusesNext : RefusesLineEnds (next ())) :
    RefusesLineEnds (optionally form >>= next) := by
  intro text
  rw [(refuses.optionally_bind _).1, (refuses.optionally_bind _).2]
  exact refusesNext text

theorem RefusesLineEnds.passes_optionally (refuses : RefusesLineEnds form)
    (passes : PassesLineEnds (next ())) :
    PassesLineEnds (Scan.optionally form >>= next) where
  same text := by
    rw [(refuses.optionally_bind _).1, (refuses.optionally_bind _).2]
    exact passes.same text
  shorter {text _ _} read := by
    rw [(refuses.optionally_bind _).2] at read
    exact passes.shorter read

end optionally

/-! ### All finds -/

/-- The scan at the places of a line end. -/
theorem Widens.atLineEnd (widens : Widens widen scan scan) (passes : PassesLineEnds scan)
    (text : List Char) :
    scan ('\r' :: '\n' :: withReturns text) =
        (scan ('\n' :: text)).map (fun (found, rest) => (widen found, withReturns rest)) ∧
      scan ('\n' :: withReturns text) =
        (scan ('\n' :: text)).map (fun (found, rest) => (widen found, withReturns rest)) := by
  have atReturn := widens.same ('\n' :: text)
  rw [withReturns_line] at atReturn
  exact ⟨atReturn, (passes.same _).symm.trans atReturn⟩

/-- The first find in a text with returns is the first find in the text. -/
theorem Widens.search (widens : Widens widen scan scan) (passes : PassesLineEnds scan)
    (text : List Char) :
    search scan (withReturns text) = (search scan text).map widen := by
  induction text with
  | nil =>
    rw [withReturns_nil, Scan.search]
    have atEnd := widens.same []
    rw [withReturns_nil] at atEnd
    rw [Option.map_map]
    nth_rewrite 1 [atEnd]
    rw [Option.map_map]
    rfl
  | cons char rest ih =>
    have atChar := widens.same (char :: rest)
    by_cases isLine : char = '\n'
    · subst isLine
      rw [withReturns_line, Scan.search, Scan.search, Scan.search, (widens.atLineEnd passes rest).1,
        (widens.atLineEnd passes rest).2, ih]
      cases scan ('\n' :: rest) <;> rfl
    · rw [withReturns_cons isLine] at atChar ⊢
      rw [Scan.search, Scan.search, atChar, ih]
      cases scan (char :: rest) <;> rfl

/-- All finds in a text with returns are all finds in the text. -/
theorem Widens.all (widens : Widens widen scan scan) (passes : PassesLineEnds scan)
    (text : List Char) :
    all scan (withReturns text) = (all scan text).map widen := by
  fun_induction Scan.all scan text with
  | case1 => rw [withReturns_nil, Scan.all, List.map_nil]
  | case2 char text found rest read ih =>
    have readWide := widens.same (char :: text)
    rw [read] at readWide
    have shorter := length_withReturns_lt_iff (widens.suffix read)
    rw [List.length_cons, Nat.lt_succ_iff] at shorter
    simp only [dite_eq_ite] at ih
    by_cases isWithin : rest.length ≤ text.length
    · rw [if_pos isWithin] at ih
      rw [all_of_some readWide (shorter.2 isWithin), ih, if_pos isWithin, List.map_cons]
    · -- Nothing has been taken, which is not the case at a line end.
      have inLine : char ≠ '\n' := by
        rintro rfl
        exact isWithin (passes.shorter read)
      rw [withReturns_cons inLine] at readWide shorter ⊢
      rw [List.length_cons, Nat.lt_succ_iff] at shorter
      rw [if_neg isWithin] at ih
      rw [Scan.all, readWide]
      simp only [Option.map_some, shorter, isWithin, if_false, ih, List.map_cons]
  | case3 char text failed ih =>
    have failedWide := widens.same (char :: text)
    rw [failed] at failedWide
    by_cases isLine : char = '\n'
    · subst isLine
      have failedBoth := widens.atLineEnd passes text
      rw [failed] at failedBoth
      rw [withReturns_line, all_cons_of_none failedBoth.1, all_cons_of_none failedBoth.2, ih]
    · rw [withReturns_cons isLine] at failedWide ⊢
      rw [all_cons_of_none failedWide, ih]

end Scan

end Schemagram
