import Schemagram.Proofs.Scan.Forms
import Schemagram.Text.Piece

/-!
# Finding forms in a text

The first find stands at the first place at which the scan succeeds.  All finds are gathered from
left to right: what is taken for one of them is skipped, and so is every place at which the scan
fails.
-/

namespace Schemagram.Scan

open Text

variable {Found : Type} {scan : Scan Found} {text rest : List Char} {found : Found}

theorem search_of_some (read : scan text = some (found, rest)) : search scan text = some found := by
  cases text with
  | nil => simp [search, read]
  | cons char more => simp [search, read]

theorem search_eq_none : search scan text = none ↔ ∀ suffix, suffix <:+ text →
    scan suffix = none := by
  induction text with
  | nil => simp [search]
  | cons char more ih =>
    constructor
    · intro failed suffix isSuffix
      rw [search] at failed
      split at failed
      · cases failed
      · rename_i noFind
        rcases List.suffix_cons_iff.1 isSuffix with rfl | shorter
        · exact noFind
        · exact ih.1 failed suffix shorter
    · intro failed
      rw [search, failed _ (List.suffix_refl _)]
      exact ih.2 fun suffix isSuffix => failed suffix (isSuffix.trans (List.suffix_cons char more))

/-- A search for something that is made of a find. -/
theorem search_map {Other : Type} (change : Found → Other) (scan : Scan Found) (text : List Char) :
    search (change <$> scan) text = (search scan text).map change := by
  have changed (text : List Char) :
      (change <$> scan) text = (scan text).map fun found => (change found.1, found.2) := by
    cases read : scan text <;> simp [Functor.map, StateT.map, read]
  induction text with
  | nil => simp [search, changed, Option.map_map, Function.comp_def]
  | cons char more ih =>
    rw [search, search, changed]
    cases scan (char :: more) with
    | none => exact ih
    | some found => rfl

/-- A find is followed by the finds in the text behind it. -/
theorem all_of_some (read : scan text = some (found, rest)) (shorter : rest.length < text.length) :
    all scan text = found :: all scan rest := by
  cases text with
  | nil => cases shorter
  | cons char more =>
    have isWithin : rest.length ≤ more.length := Nat.le_of_lt_succ shorter
    rw [all, read]
    simp only [isWithin, if_true]

theorem all_cons_of_none {char : Char} (failed : scan (char :: text) = none) :
    all scan (char :: text) = all scan text := by
  rw [all, failed]

/-- A part of a text at none of whose places the scan succeeds is skipped. -/
theorem all_append_of_none {part : List Char}
    (failed : ∀ suffix, suffix <:+ part → suffix ≠ [] → scan (suffix ++ rest) = none) :
    all scan (part ++ rest) = all scan rest := by
  induction part with
  | nil => rfl
  | cons char more ih =>
    have first : scan (char :: (more ++ rest)) = none := failed _ (List.suffix_refl _) (by simp)
    rw [List.cons_append, all_cons_of_none first]
    apply ih
    intro suffix isSuffix
    exact failed suffix (isSuffix.trans (List.suffix_cons char more))

/-- Nothing is found in a text at none of whose places the scan succeeds. -/
theorem all_eq_nil (failed : ∀ suffix, suffix <:+ text → scan suffix = none) :
    all scan text = [] := by
  have passed : all scan (text ++ []) = all scan [] := by
    apply all_append_of_none
    intro suffix isSuffix _
    rw [List.append_nil]
    exact failed suffix isSuffix
  rw [List.append_nil] at passed
  rw [passed, all]

/-- A search goes past a part at none of whose places the scan succeeds. -/
theorem search_append_of_none {part : List Char}
    (failed : ∀ suffix, suffix <:+ part → suffix ≠ [] → scan (suffix ++ rest) = none) :
    search scan (part ++ rest) = search scan rest := by
  induction part with
  | nil => rfl
  | cons char more ih =>
    have first : scan (char :: (more ++ rest)) = none := failed _ (List.suffix_refl _) (by simp)
    rw [List.cons_append, search, first]
    apply ih
    intro suffix isSuffix
    exact failed suffix (isSuffix.trans (List.suffix_cons char more))

/-- The finds with their texts are the finds. -/
theorem map_snd_all_withText (scan : Scan Found) (text : List Char) :
    (all (withText scan) text).map Prod.snd = all scan text := by
  fun_induction all scan text with
  | case1 => simp [all]
  | case2 char text found rest read ih =>
    simp only [dite_eq_ite] at ih
    simp only [all, withText, read, Option.map_some, List.map_cons, ih]
  | case3 char text failed ih => simp only [all, withText, failed, Option.map_none, ih]

/-- A part that ends in a semicolon is skipped by a scan that meets a mark before any semicolon,
unless it holds the mark. -/
theorem all_append_of_meets {guard : Char} (meets : Meets guard scan)
    {part : List Char} (free : guard ∉ part) (notEnd : guard ≠ ';') (rest : List Char) :
    all scan (part ++ ';' :: rest) = all scan rest := by
  have fails : ∀ suffix, suffix <:+ part → scan (suffix ++ ';' :: rest) = none := by
    intro suffix isSuffix
    rw [Option.eq_none_iff_forall_ne_some]
    rintro ⟨found, left⟩ read
    rcases meets read with ⟨before, after, split, noEnd⟩
    exact append_cons_ne notEnd.symm (fun mem => free (isSuffix.subset mem)) noEnd split
  calc all scan (part ++ ';' :: rest)
      = all scan (';' :: rest) := all_append_of_none fun suffix isSuffix _ => fails suffix isSuffix
    _ = all scan rest := all_cons_of_none (fails [] (List.nil_suffix))

/-! ### Where finds stand -/

/-- Where a scan leaves the rest of a text, each of its finds stands in the text. -/
theorem exists_suffix_of_mem_all {isTaken : Char → Prop} (takes : Takes isTaken scan)
    (mem : found ∈ all scan text) : ∃ suffix rest, suffix <:+ text ∧
    scan suffix = some (found, rest) := by
  fun_induction all scan text with
  | case1 => cases mem
  | case2 char text first rest read ih =>
    rcases List.mem_cons.1 mem with rfl | memRest
    · exact ⟨char :: text, rest, List.suffix_refl _, read⟩
    · rcases ih memRest with ⟨suffix, left, isSuffix, readLater⟩
      refine ⟨suffix, left, isSuffix.trans ?_, readLater⟩
      split
      · exact (takes read).suffix
      · exact List.suffix_cons char text
  | case3 char text failed ih =>
    rcases ih mem with ⟨suffix, left, isSuffix, readLater⟩
    exact ⟨suffix, left, isSuffix.trans (List.suffix_cons char text), readLater⟩

/-- What a search finds stands in the text. -/
theorem exists_suffix_of_search (isFound : search scan text = some found) :
    ∃ suffix rest, suffix <:+ text ∧ scan suffix = some (found, rest) := by
  induction text with
  | nil =>
    rcases Option.map_eq_some_iff.1 isFound with ⟨⟨_, rest⟩, read, rfl⟩
    exact ⟨[], rest, List.suffix_refl _, read⟩
  | cons char more ih =>
    rw [search] at isFound
    split at isFound
    · rename_i first rest read
      cases isFound
      exact ⟨char :: more, rest, List.suffix_refl _, read⟩
    · rcases ih isFound with ⟨suffix, rest, isSuffix, read⟩
      exact ⟨suffix, rest, isSuffix.trans (List.suffix_cons char more), read⟩

/-- The first find of a text is followed by the finds behind it. -/
theorem exists_of_all_eq_cons {others : List Found} (isFound : all scan text = found :: others) :
    ∃ before suffix rest, text = before ++ suffix ∧ scan suffix = some (found, rest) ∧
      (rest.length < suffix.length → all scan rest = others) := by
  fun_induction all scan text with
  | case1 => cases isFound
  | case2 char text first rest read =>
    rw [List.cons.injEq] at isFound
    rcases isFound with ⟨rfl, isMore⟩
    refine ⟨[], char :: text, rest, rfl, read, fun shorter => ?_⟩
    rwa [if_pos (Nat.le_of_lt_succ shorter)] at isMore
  | case3 char text failed ih =>
    rcases ih isFound with ⟨before, suffix, rest, rfl, readLater⟩
    exact ⟨char :: before, suffix, rest, rfl, readLater⟩

theorem withText_eq_some {isTaken : Char → Prop} (takes : Takes isTaken scan)
    {written : List Char} :
    withText scan text = some ((written, found), rest) ↔
      scan text = some (found, rest) ∧ text = written ++ rest := by
  simp only [withText, Option.map_eq_some_iff]
  constructor
  · rintro ⟨⟨_, _⟩, read, same⟩
    cases same
    rcases takes read with ⟨part, rfl, _⟩
    exact ⟨read, by simp⟩
  · rintro ⟨read, rfl⟩
    exact ⟨(found, rest), read, by simp⟩

/-- The text of a find stands in the text in which it is found. -/
theorem infix_of_mem_all_withText {isTaken : Char → Prop} (takes : Takes isTaken scan)
    {written : List Char} (mem : (written, found) ∈ all (withText scan) text) :
    written <:+: text ∧ ∃ rest, scan (written ++ rest) = some (found, rest) := by
  have takesText : Takes isTaken (withText scan) := by
    rintro text rest ⟨written, found⟩ read
    exact takes ((withText_eq_some takes).1 read).1
  rcases exists_suffix_of_mem_all takesText mem with ⟨suffix, rest, isSuffix, read⟩
  rcases (withText_eq_some takes).1 read with ⟨readFound, rfl⟩
  exact ⟨(List.prefix_append written rest).isInfix.trans isSuffix.isInfix, rest, readFound⟩

/-! ### Words that a scan needs -/

/-- A scan succeeds only on a text that holds a word, in some case. -/
def Needs (word : String) (scan : Scan Found) : Prop :=
  ∀ ⦃text rest : List Char⦄ ⦃found : Found⦄, scan text = some (found, rest) →
    ∃ written, IsSpelling word written ∧ written <:+: text

section Needs

variable {Other : Type} {word : String} {more : Found → Scan Other}

theorem needs_keyword (word : String) : Needs word (keyword word) := by
  intro text rest _ read
  rcases keyword_eq_some.1 read with ⟨written, spelled, rfl⟩
  exact ⟨written, spelled, (List.prefix_append written rest).isInfix⟩

theorem Needs.bind (needs : Needs word scan) (more : Found → Scan Other) :
    Needs word (scan >>= more) := by
  intro text rest result read
  rcases bind_eq_some.1 read with ⟨found, between, first, _⟩
  exact needs first

/-- What is needed behind a beginning stands in the text behind it. -/
theorem Takes.needs {isTaken : Char → Prop} (takes : Takes isTaken scan)
    (needs : ∀ found, Needs word (more found)) :
    Needs word (scan >>= more) := by
  intro text rest result read
  rcases bind_eq_some.1 read with ⟨found, between, first, second⟩
  rcases needs found second with ⟨written, spelled, isPart⟩
  exact ⟨written, spelled, isPart.trans (takes first).suffix.isInfix⟩

theorem Needs.all_eq_nil (needs : Needs word scan)
    (absent : ∀ written, IsSpelling word written → ¬written <:+: text) :
    all scan text = [] := by
  apply Scan.all_eq_nil
  intro suffix isSuffix
  rw [Option.eq_none_iff_forall_ne_some]
  rintro ⟨found, rest⟩ read
  rcases needs read with ⟨written, spelled, isPart⟩
  exact absent written spelled (isPart.trans isSuffix.isInfix)

end Needs

/-! ### Scans that agree on a text -/

/-- Two scans do the same at every place of a text. -/
def Alike (text : List Char) (scan other : Scan Found) : Prop :=
  ∀ suffix, suffix <:+ text → scan suffix = other suffix

section Alike

variable {Other : Type} {isTaken : Char → Prop} {other : Scan Found}

theorem Alike.suffix {suffix : List Char} (alike : Alike text scan other)
    (isSuffix : suffix <:+ text) :
    Alike suffix scan other :=
  fun part isPart => alike part (isPart.trans isSuffix)

theorem Alike.orElse (alike : Alike text scan other) (last : Scan Found) :
    Alike text (scan <|> last) (other <|> last) := by
  intro suffix isSuffix
  change (scan suffix <|> last suffix) = (other suffix <|> last suffix)
  rw [alike suffix isSuffix]

theorem Alike.bind (alike : Alike text scan other) (next : Found → Scan Other) :
    Alike text (scan >>= next) (other >>= next) := by
  intro suffix isSuffix
  change (scan suffix >>= fun found => next found.1 found.2) =
    (other suffix >>= fun found => next found.1 found.2)
  rw [alike suffix isSuffix]

/-- Behind the same beginning, what follows is compared in the rest of the text. -/
theorem Takes.alike {next last : Found → Scan Other} (takes : Takes isTaken scan)
    (alike : ∀ found, Alike text (next found) (last found)) :
    Alike text (scan >>= next) (scan >>= last) := by
  intro suffix isSuffix
  change (scan suffix >>= fun found => next found.1 found.2) =
    (scan suffix >>= fun found => last found.1 found.2)
  cases read : scan suffix with
  | none => rfl
  | some found => exact alike found.1 found.2 ((takes read).suffix.trans isSuffix)

theorem Alike.search (alike : Alike text scan other) : search scan text = search other text := by
  induction text with
  | nil => rw [Scan.search, Scan.search, alike [] (List.suffix_refl _)]
  | cons char more ih =>
    rw [Scan.search, Scan.search, alike _ (List.suffix_refl _),
      ih (alike.suffix (List.suffix_cons char more))]

theorem Alike.all (takes : Takes isTaken scan) (alike : Alike text scan other) :
    all scan text = all other text := by
  fun_induction Scan.all scan text with
  | case1 => rw [Scan.all]
  | case2 char text found rest read ih =>
    rw [Scan.all, ← alike _ (List.suffix_refl _), read]
    refine congrArg (found :: ·) (ih (alike.suffix ?_))
    split
    · exact (takes read).suffix
    · exact List.suffix_cons char text
  | case3 char text failed ih =>
    rw [Scan.all, ← alike _ (List.suffix_refl _), failed]
    exact ih (alike.suffix (List.suffix_cons char text))

end Alike

/-! ### Repetitions -/

theorem many_of_some {more : List Found} {after : List Char} (read : scan text = some (found, rest))
    (shorter : rest.length < text.length) (readMore : many scan rest = some (more, after)) :
    many scan text = some (found :: more, after) := by
  rw [many, read]
  simp only [shorter, if_true, readMore, Option.map_some]

theorem many_of_none (failed : scan text = none) : many scan text = some ([], text) := by
  rw [many, failed]

end Schemagram.Scan
