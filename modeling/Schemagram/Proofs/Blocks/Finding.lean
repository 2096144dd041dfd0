import Schemagram.Proofs.Blocks.Writing
import Schemagram.Proofs.Scan.Search

/-!
# Blocks are found where they are written

A block is found by its opening word, a name and a brace, with nothing but white space between them.
The words before the first brace of a text are therefore the name and the opening word of the block,
whatever stands before them, so that no block is found that begins earlier, within a name or behind
another word.

A script is gone through statement by statement.  What is left of it where a statement has been
passed over is known only by a property, such as that it holds no brace.
-/

namespace Schemagram.Blocks

open Text Writing
open Scan hiding keyword mark

variable {same : Char → Char → Bool} {expected text rest inside : List Char} {name : String}

/-! ### Blocks -/

/-- The spellings of an opening word. -/
def Spelled (same : Char → Char → Bool) (expected written : List Char) : Prop :=
  List.Forall₂ (fun char other => same char other = true) expected written

theorem spelled_exactly {expected written : List Char} :
    Spelled (fun letter char => letter = char) expected written ↔ written = expected := by
  simp [Spelled, eq_comm]

/-- A block is made of its opening word, white space, its name, and a text between braces. -/
theorem block_eq_some : block (literal same expected) text = some ((name, inside), rest) ↔
    ∃ opening gap between, text = opening ++ (gap ++ (name.toList ++ (between ++
        '\x7b' :: (inside ++ '\x7d' :: rest)))) ∧ Spelled same expected opening ∧ gap ∈ blank ∧
      IsWord name.toList ∧ between ∈ blanks ∧ '\x7d' ∉ inside := by
  simp only [block, braces, bind_eq_some, literal_eq_some, pure_eq_some]
  constructor
  · rintro ⟨_, _, ⟨opening, spelled, rfl⟩, _, _, readGap, found, _, readName, _, _,
      readBetween, body, _,
      ⟨_, _, opened, _, _, readInside, _, _, closed, rfl, rfl⟩, pair, rfl⟩
    cases pair
    rcases someSpaces_eq_some.1 readGap with ⟨gap, rfl, isGap, areSpaces, _⟩
    rcases word_eq_some.1 readName with ⟨rfl, named, _⟩
    rcases spaces_eq_some.1 readBetween with ⟨between, rfl, isBetween, _⟩
    rcases run_eq_some.1 readInside with ⟨rfl, isInside, _⟩
    rw [mark_eq_some.1 opened, mark_eq_some.1 closed]
    refine ⟨opening, gap, between, by simp, spelled, ⟨isGap, areSpaces⟩, named, isBetween, ?_⟩
    intro mem
    simpa using isInside '\x7d' mem
  · rintro ⟨opening, gap, between, rfl, spelled, isGap, named, isBetween, noEnd⟩
    have isInside : ∀ char ∈ inside, decide (char ≠ '\x7d') = true := by
      intro char mem
      rw [decide_eq_true_eq]
      rintro rfl
      exact noEnd mem
    exact ⟨(), _, ⟨opening, spelled, rfl⟩, (), _,
      someSpaces_append isGap (ends_isSpace_of_isWord named),
      name, _, word_append named
        (ends_blanks (fun _ => isWord_of_isSpace) isBetween (ends_cons.2 (by decide))),
      (), _, spaces_append isBetween (ends_cons.2 (by decide)), inside, rest,
      ⟨(), _, mark_cons _ _, inside, _, run_eq_some.2 ⟨rfl, isInside, by simp⟩, (), rest,
        mark_cons _ _, rfl, rfl⟩,
      rfl, rfl⟩

/-- What stands before the brace of a block: its opening word and its name. -/
structure IsHead (opening gap : List Char) (name : String) (between : List Char) : Prop where
  opening : IsWord opening
  gap : gap ∈ blank
  name : IsWord name.toList
  between : between ∈ blanks

variable {opening gap between : List Char}

namespace IsHead

/-- The opening word of a block, its name and the white space around them hold no mark. -/
theorem not_mem (isHead : IsHead opening gap name between) {mark : Char}
    (noWord : isWord mark = false) (noSpace : isSpace mark = false) :
    mark ∉ opening ++ (gap ++ (name.toList ++ between)) := by
  simp only [List.mem_append, not_or]
  exact ⟨not_mem_of_run isHead.opening.2 noWord, not_mem_of_run isHead.gap.2 noSpace,
    not_mem_of_run isHead.name.2 noWord, not_mem_of_run isHead.between noSpace⟩

/-- A text ends in one way only in an opening word, white space, a name and white space. -/
theorem unique {before otherBefore otherOpening otherGap otherBetween : List Char}
    {otherName : String} (isHead : IsHead opening gap name between)
    (isOther : IsHead otherOpening otherGap otherName otherBetween)
    (equal : before ++ (opening ++ (gap ++ (name.toList ++ between))) =
      otherBefore ++ (otherOpening ++ (otherGap ++ (otherName.toList ++ otherBetween)))) :
    before ++ opening = otherBefore ++ otherOpening ∧ gap = otherGap ∧ name = otherName ∧
      between = otherBetween := by
  have lastOf : ∀ {front part : List Char} {test : Char → Bool}, part ≠ [] →
      (∀ char ∈ part, test char = false) → ∀ char ∈ (front ++ part).getLast?,
      test char = false := by
    intro front part test nonempty outside char mem
    apply outside
    rw [List.getLast?_append_of_ne_nil _ nonempty] at mem
    exact List.mem_of_getLast? mem
  have wordEnd : ∀ {front part : List Char}, IsWord part →
      ∀ char ∈ (front ++ part).getLast?, isSpace char = false :=
    fun isPart => lastOf isPart.1 fun char mem => not_isSpace_of_isWord (isPart.2 char mem)
  have blankEnd : ∀ {front part : List Char}, part ∈ blank →
      ∀ char ∈ (front ++ part).getLast?, isWord char = false :=
    fun isPart => lastOf isPart.1 fun char mem => isWord_of_isSpace (isPart.2 char mem)
  simp only [← List.append_assoc] at equal
  rcases append_run_inj (wordEnd isHead.name) (wordEnd isOther.name) isHead.between
    isOther.between equal
    with ⟨equalNames, sameBetween⟩
  rcases append_run_inj (blankEnd isHead.gap) (blankEnd isOther.gap) isHead.name.2
    isOther.name.2 equalNames
    with ⟨equalGaps, sameName⟩
  rcases append_run_inj (wordEnd isHead.opening) (wordEnd isOther.opening) isHead.gap.2
    isOther.gap.2 equalGaps
    with ⟨equalOpenings, sameGap⟩
  exact ⟨equalOpenings, sameGap, String.toList_injective sameName, sameBetween⟩

end IsHead

/-- A block that is found before a brace has the opening word that stands there. -/
theorem exists_of_block {before suffix front more : List Char} {found : String × List Char}
    (letters : ∀ written, Spelled same expected written → IsWord written)
    (isHead : IsHead opening gap name between) (noBrace : '\x7b' ∉ front)
    (split : before ++ suffix = front ++ (opening ++ (gap ++ (name.toList ++ between))))
    (read : block (literal same expected) (suffix ++ '\x7b' :: more) = some (found, rest)) :
    ∃ written, Spelled same expected written ∧ before ++ written = front ++ opening := by
  rcases block_eq_some.1 read with
    ⟨written, otherGap, otherBetween, equal, spelled, isGap, named, isBetween, _⟩
  have isOther : IsHead written otherGap found.1 otherBetween :=
    ⟨letters written spelled, isGap, named, isBetween⟩
  have noBraceSuffix : '\x7b' ∉ suffix := by
    intro mem
    have inHead : '\x7b' ∈ front ++ (opening ++ (gap ++ (name.toList ++ between))) := by
      rw [← split]
      exact List.mem_append_right before mem
    rcases List.mem_append.1 inHead with mem | mem
    · exact noBrace mem
    · exact isHead.not_mem (by decide) (by decide) mem
  have cut : suffix = written ++ (otherGap ++ (found.1.toList ++ otherBetween)) := by
    apply And.left
    apply append_cons_inj noBraceSuffix (isOther.not_mem (by decide) (by decide))
    simpa using equal
  rw [cut] at split
  exact ⟨written, spelled, (isOther.unique isHead split).1⟩

/-- A block is found behind a text without a brace, and nothing before it. -/
theorem all_block_of_spelled {front : List Char}
    (letters : ∀ written, Spelled same expected written → IsWord written)
    (isHead : IsHead opening gap name between) (noBrace : '\x7b' ∉ front) (noEnd : '\x7d' ∉ inside)
    (spelled : Spelled same expected opening) (rest : List Char) :
    all (block (literal same expected)) (front ++ ((opening ++ (gap ++ (name.toList ++ between))) ++
      '\x7b' :: (inside ++ '\x7d' :: rest))) =
        (name, inside) :: all (block (literal same expected)) rest := by
  have read : block (literal same expected) ((opening ++ (gap ++ (name.toList ++ between))) ++
      '\x7b' :: (inside ++ '\x7d' :: rest)) = some ((name, inside), rest) :=
    block_eq_some.2 ⟨opening, gap, between, by simp, spelled, isHead.gap, isHead.name,
      isHead.between, noEnd⟩
  rw [all_append_of_none, all_of_some read]
  · simp only [List.length_append, List.length_cons]
    omega
  · rintro suffix ⟨before, rfl⟩ nonempty
    rw [Option.eq_none_iff_forall_ne_some, ← List.append_assoc]
    rintro ⟨found, left⟩ readEarlier
    have split := (List.append_assoc before suffix
      (opening ++ (gap ++ (name.toList ++ between)))).symm
    rcases exists_of_block letters isHead noBrace split readEarlier with ⟨written, isWritten, equal⟩
    -- Both words are spellings of one keyword, so that they begin at one place.
    rw [List.append_assoc, List.append_cancel_left_eq] at equal
    have sameLength :=
      (List.Forall₂.length_eq isWritten).symm.trans (List.Forall₂.length_eq spelled)
    rw [equal, List.length_append] at sameLength
    have positive := List.length_pos_of_ne_nil nonempty
    omega

/-- No block begins within the braces of another one, unless there is a further brace. -/
theorem block_eq_none_of_suffix {suffix : List Char}
    (letters : ∀ written, Spelled same expected written → IsWord written)
    (noBrace : '\x7b' ∉ inside) (isSuffix : suffix <:+ '\x7b' :: (inside ++ ['\x7d']))
    (nonempty : suffix ≠ []) (rest : List Char) :
    block (literal same expected) (suffix ++ rest) = none := by
  rw [Option.eq_none_iff_forall_ne_some]
  rintro ⟨⟨found, body⟩, left⟩ read
  rcases block_eq_some.1 read with
    ⟨written, gap, between, equal, spelled, isGap, named, isBetween, _⟩
  have isHead : IsHead written gap found between :=
    ⟨letters written spelled, isGap, named, isBetween⟩
  have parts : suffix ++ rest = (written ++ (gap ++ (found.toList ++ between))) ++
      '\x7b' :: (body ++ '\x7d' :: left) := by
    rw [equal]
    simp
  rcases List.suffix_cons_iff.1 isSuffix with rfl | isSuffix
  · -- The block would begin with a brace.
    cases written with
    | nil => exact isHead.opening.1 rfl
    | cons char more =>
      have isBrace : '\x7b' = char := by
        simp only [List.cons_append, List.cons.injEq] at parts
        exact parts.1
      have inWord := isHead.opening.2 char List.mem_cons_self
      rw [← isBrace] at inWord
      cases inWord
  · -- The block would reach over the closing brace of this one.
    rcases List.suffix_concat_iff.1 isSuffix with rfl | ⟨part, rfl, isPart⟩
    · exact nonempty rfl
    · rw [List.append_assoc] at parts
      exact append_cons_ne (by decide) (fun mem => noBrace (isPart.subset mem))
        (isHead.not_mem (by decide) (by decide)) parts

/-- A block with another opening word is passed over, whatever stands before it. -/
theorem all_block_of_other {front : List Char}
    (letters : ∀ written, Spelled same expected written → IsWord written)
    (isHead : IsHead opening gap name between) (noBrace : '\x7b' ∉ front)
    (noBraceInside : '\x7b' ∉ inside)
    (differ : ∀ written, Spelled same expected written → written.getLast? ≠ opening.getLast?)
    (rest : List Char) :
    all (block (literal same expected)) (front ++ ((opening ++ (gap ++ (name.toList ++ between))) ++
      '\x7b' :: (inside ++ '\x7d' :: rest))) = all (block (literal same expected)) rest := by
  have atHead : ∀ suffix, suffix <:+ front ++ (opening ++ (gap ++ (name.toList ++ between))) →
      suffix ≠ [] →
      block (literal same expected) (suffix ++ '\x7b' :: (inside ++ '\x7d' :: rest)) = none := by
    rintro suffix ⟨before, split⟩ _
    rw [Option.eq_none_iff_forall_ne_some]
    rintro ⟨found, left⟩ read
    rcases exists_of_block letters isHead noBrace split read with ⟨written, spelled, equal⟩
    apply differ written spelled
    rw [← List.getLast?_append_of_ne_nil before (letters written spelled).1, equal,
      List.getLast?_append_of_ne_nil front isHead.opening.1]
  have body := all_append_of_none fun suffix isSuffix nonempty =>
    block_eq_none_of_suffix letters noBraceInside isSuffix nonempty rest
  simp only [List.cons_append, List.append_assoc, List.nil_append] at body
  rw [← List.append_assoc, all_append_of_none atHead, body]

/-! ### Scripts -/

/-- A scan finds a value, or nothing, in the texts of a language.  What has been passed over before
keeps a property. -/
def Finds {Found Value : Type} (scan : Scan Found) (read : Found → Value)
    (isPassed : List Char → Prop) (language : Language Char) (value? : Option Value) : Prop :=
  ∀ ⦃front text rest : List Char⦄, isPassed front → text ∈ language → Ends isWord rest →
    ∃ left, isPassed left ∧ (all scan (front ++ (text ++ rest))).map read =
      value?.toList ++ (all scan (left ++ rest)).map read

/-- What a scan finds in a script is what it finds in the statements, one after the other. -/
theorem map_all_script {Item Found Value : Type} {scan : Scan Found} {read : Found → Value}
    {value? : Item → Option Value} {written : Item → Language Char} {isPassed : List Char → Prop}
    {items : List Item}
    (grows : ∀ {front gap}, isPassed front → gap ∈ blanks → isPassed (front ++ gap))
    (ended : ∀ {front}, isPassed front → all scan front = [])
    (finds : ∀ item ∈ items, Finds scan read isPassed (written item) (value? item))
    {front : List Char} (passed : isPassed front) (isScript : text ∈ script (items.map written)) :
    (all scan (front ++ text)).map read = items.filterMap value? := by
  have prepend (item : Item) (more : List Item) :
      (value? item).toList ++ more.filterMap value? = (item :: more).filterMap value? := by
    rw [List.filterMap_cons]
    cases value? item <;> rfl
  induction items generalizing front text with
  | nil => rw [ended (grows passed isScript), List.map_nil, List.filterMap_nil]
  | cons first more ih =>
    have findsMore := fun item mem => finds item (List.mem_cons_of_mem first mem)
    cases more with
    | nil =>
      rcases Language.mem_mul.1 isScript with ⟨gap, isGap, _, behindGap, rfl⟩
      rcases Language.mem_mul.1 behindGap with ⟨part, isPart, last, isLast, rfl⟩
      have ends : Ends isWord last := by
        simpa using ends_blanks (fun _ => isWord_of_isSpace) isLast (ends_nil _)
      rcases finds first List.mem_cons_self (grows passed isGap) isPart ends with
        ⟨left, isLeft, found⟩
      rw [← List.append_assoc, found, ended (grows isLeft isLast), ← prepend]
      rfl
    | cons second more =>
      rcases Language.mem_mul.1 isScript with ⟨gap, isGap, _, behindGap, rfl⟩
      rcases Language.mem_mul.1 behindGap with ⟨part, isPart, _, behindPart, rfl⟩
      rcases Language.mem_mul.1 behindPart with ⟨space, isSpaces, others, isOthers, rfl⟩
      rcases finds first List.mem_cons_self (grows passed isGap) isPart
        (ends_blank (fun _ => isWord_of_isSpace) isSpaces) with ⟨left, isLeft, found⟩
      rw [← List.append_assoc, found, ← List.append_assoc,
        ih findsMore (grows isLeft isSpaces.2) isOthers, prepend]

/-- The parts of a written block. -/
theorem exists_of_mem_writtenBlock {language body : Language Char}
    (written : text ∈ writtenBlock language name body) :
    ∃ opening ∈ language, ∃ gap ∈ blank, ∃ between ∈ blanks, ∃ inside ∈ body,
      text = (opening ++ (gap ++ (name.toList ++ between))) ++ '\x7b' :: (inside ++ ['\x7d']) := by
  rcases Language.mem_mul.1 written with ⟨opening, isOpening, _, behindOpening, rfl⟩
  rcases Language.mem_mul.1 behindOpening with ⟨gap, isGap, _, behindGap, rfl⟩
  rcases Language.mem_mul.1 behindGap with ⟨_, rfl, _, behindName, rfl⟩
  rcases Language.mem_mul.1 behindName with ⟨between, isBetween, _, behindBetween, rfl⟩
  rcases Language.mem_mul.1 behindBetween with ⟨_, rfl, _, behindBrace, rfl⟩
  rcases Language.mem_mul.1 behindBrace with ⟨inside, isInside, _, rfl, rfl⟩
  exact ⟨opening, isOpening, gap, isGap, between, isBetween, inside, isInside, by simp⟩

/-- A written block is found behind a text without a brace, and nothing before it. -/
theorem all_block_of_written {language body : Language Char}
    (letters : ∀ written, Spelled same expected written → IsWord written)
    (spelled : ∀ opening ∈ language, Spelled same expected opening) (named : IsWord name.toList)
    (noEnd : ∀ inside ∈ body, '\x7d' ∉ inside) (written : text ∈ writtenBlock language name body) :
    ∃ inside ∈ body, ∀ front rest, '\x7b' ∉ front →
    all (block (literal same expected)) (front ++ (text ++ rest)) =
      (name, inside) :: all (block (literal same expected)) rest := by
  rcases exists_of_mem_writtenBlock written with
    ⟨opening, isOpening, gap, isGap, between, isBetween, inside, isInside, rfl⟩
  have isHead : IsHead opening gap name between :=
    ⟨letters opening (spelled opening isOpening), isGap, named, isBetween⟩
  refine ⟨inside, isInside, fun front rest noBrace => ?_⟩
  have found := all_block_of_spelled letters isHead noBrace (noEnd inside isInside)
    (spelled opening isOpening) rest
  simpa only [List.append_assoc, List.cons_append, List.nil_append] using found

/-- The braces around a block. -/
def blockMarks : List Char := ['\x7b', '\x7d']

/-- A statement whose names are words and in which no braces stand but those around its block. -/
def Style.IsPlain (style : Style) : Statement → Prop
  | .ofEnum name members => IsWord name.toList ∧ Free blockMarks (style.members members)
  | .ofTable table => IsWord table.name.toList ∧ Free blockMarks (style.lines table)
  | .ofKey owner key => Free blockMarks (style.reference owner key)

section Found

variable {Value : Type} {read : String × List Char → Value} {language body : Language Char}

theorem finds_of_spelled (letters : ∀ written, Spelled same expected written → IsWord written)
    (spelled : ∀ opening ∈ language, Spelled same expected opening) (named : IsWord name.toList)
    (free : Free blockMarks body) {value : Value}
    (reads : ∀ inside ∈ body, read (name, inside) = value) :
    Finds (block (literal same expected)) read ('\x7b' ∉ ·) (writtenBlock language name body)
    (some value) := by
  intro front text rest noBrace written _
  have noEnd : ∀ inside ∈ body, '\x7d' ∉ inside :=
    fun inside isInside => free.not_mem isInside (by decide)
  rcases all_block_of_written letters spelled named noEnd written with ⟨inside, isInside, found⟩
  refine ⟨[], List.not_mem_nil, ?_⟩
  rw [found front rest noBrace, List.map_cons, reads inside isInside]
  rfl

theorem finds_of_other (letters : ∀ written, Spelled same expected written → IsWord written)
    (differ : ∀ opening ∈ language, IsWord opening ∧
      ∀ written, Spelled same expected written → written.getLast? ≠ opening.getLast?)
    (named : IsWord name.toList) (free : Free blockMarks body) :
    Finds (block (literal same expected)) read ('\x7b' ∉ ·)
    (writtenBlock language name body) none := by
  intro front text rest noBrace written _
  rcases exists_of_mem_writtenBlock written with
    ⟨opening, isOpening, gap, isGap, between, isBetween, inside, isInside, rfl⟩
  have isHead : IsHead opening gap name between :=
    ⟨(differ opening isOpening).1, isGap, named, isBetween⟩
  have passed := all_block_of_other letters isHead noBrace (free.not_mem isInside (by decide))
    (differ opening isOpening).2 rest
  refine ⟨[], List.not_mem_nil, ?_⟩
  simp only [List.append_assoc, List.cons_append, List.nil_append] at passed ⊢
  rw [passed]
  rfl

end Found

/-- Where a language does without a mark, what has been passed over does without it, too. -/
theorem finds_of_free {Found Value : Type} {scan : Scan Found} {read : Found → Value} {mark : Char}
    {language : Language Char} (free : Free [mark] language) :
    Finds scan read (mark ∉ ·) language none := by
  intro front text rest absent written _
  refine ⟨front ++ text, fun mem => ?_, by simp⟩
  rcases List.mem_append.1 mem with mem | mem
  · exact absent mem
  · exact free.not_mem written List.mem_cons_self mem

theorem not_mem_append_blanks {mark : Char} (noSpace : isSpace mark = false) {front gap : List Char}
    (absent : mark ∉ front) (isGap : gap ∈ blanks) : mark ∉ front ++ gap := by
  rw [List.mem_append, not_or]
  exact ⟨absent, not_mem_of_run isGap noSpace⟩

/-- No block stands in a text without a brace. -/
theorem all_block_eq_nil (noBrace : '\x7b' ∉ text) :
    all (block (literal same expected)) text = [] := by
  apply all_eq_nil
  intro suffix isSuffix
  rw [Option.eq_none_iff_forall_ne_some]
  rintro ⟨⟨found, inside⟩, left⟩ read
  rcases block_eq_some.1 read with ⟨_, _, _, rfl, _⟩
  exact noBrace (isSuffix.subset (by simp))

section Script

variable {Value : Type} {read : String × List Char → Value} {style : Style}
  {statements : List Statement}

/-- The blocks of tables are found in their order. -/
theorem map_all_tables
    (isSpelling : ∀ written, Spelled same expected written → IsSpelling "Table" written)
    (spelled : ∀ opening ∈ style.opening, Spelled same expected opening)
    (arePlain : ∀ statement ∈ statements, style.IsPlain statement) {value : Table → Value}
    (reads : ∀ table, .ofTable table ∈ statements → ∀ inside ∈ style.lines table,
      read (table.name, inside) = value table)
    (isScript : text ∈ script (statements.map style.written)) :
    (all (block (literal same expected)) text).map read =
      (statements.filterMap Statement.block?).map value := by
  have letters (written : List Char) (isWritten : Spelled same expected written) : IsWord written :=
    isWord_of_spelled (by decide) (isSpelling written isWritten)
  have differ : ∀ opening ∈ keyword "enum", IsWord opening ∧
      ∀ written, Spelled same expected written → written.getLast? ≠ opening.getLast? := by
    intro opening isOpening
    refine ⟨isWord_of_keyword (by decide) isOpening, fun written isWritten => ?_⟩
    exact getLast?_ne_of_isSpelling (by decide : "Table".toList.getLast? = some 'e')
      (by decide : "enum".toList.getLast? = some 'm') (by decide) (by decide)
        (isSpelling written isWritten) isOpening
  rw [List.map_filterMap, ← List.nil_append text]
  apply map_all_script (not_mem_append_blanks (by decide)) all_block_eq_nil
    _ List.not_mem_nil isScript
  intro statement mem
  have isPlain := arePlain statement mem
  cases statement with
  | ofEnum name members => exact finds_of_other letters differ isPlain.1 isPlain.2
  | ofTable table => exact finds_of_spelled letters spelled isPlain.1 isPlain.2 (reads table mem)
  | ofKey owner key => exact finds_of_free (isPlain.fewer (by decide))

/-- The enums are read from their blocks in their order. -/
theorem map_all_enums {word : String} (isEnum : word ∈ ["Enum", "enum"])
    (opens : ∀ opening ∈ style.opening, opening ∈ keyword "Table")
    (arePlain : ∀ statement ∈ statements, style.IsPlain statement)
    {membersOf : List Char → List String}
    (reads : ∀ name members, .ofEnum name members ∈ statements → ∀ inside ∈ style.members members,
      membersOf inside = members)
    (isScript : text ∈ script (statements.map style.written)) :
    (all (block (Scan.keyword word)) text).map (fun (name, inside) => (name, membersOf inside)) =
      enumsOf statements := by
  have isKeyword : keyword "enum" = keyword word ∧ IsWord word.toList ∧
      word.toList.getLast? = some 'm' := by
    rcases List.mem_pair.1 isEnum with rfl | rfl <;> exact ⟨rfl, by decide, by decide⟩
  rcases isKeyword with ⟨sameWord, isWord, isLast⟩
  have spelled : ∀ opening ∈ keyword "enum", IsSpelling word opening := by
    rw [sameWord]
    exact fun opening => isSpelling_of_keyword
  have differ : ∀ opening ∈ style.opening, IsWord opening ∧
      ∀ written, IsSpelling word written → written.getLast? ≠ opening.getLast? := by
    intro opening isOpening
    refine ⟨isWord_of_keyword (by decide) (opens opening isOpening), fun written isWritten => ?_⟩
    exact getLast?_ne_of_isSpelling isLast (by decide : "Table".toList.getLast? = some 'e')
      (by decide) (by decide)
      isWritten (opens opening isOpening)
  rw [enumsOf, ← List.nil_append text]
  apply map_all_script (not_mem_append_blanks (by decide)) all_block_eq_nil
    _ List.not_mem_nil isScript
  intro statement mem
  have isPlain := arePlain statement mem
  cases statement with
  | ofEnum name members =>
    refine finds_of_spelled (fun _ => isWord_of_spelled isWord) spelled isPlain.1 isPlain.2 ?_
    exact fun inside isInside => congrArg (Prod.mk name) (reads name members mem inside isInside)
  | ofTable table =>
    exact finds_of_other (fun _ => isWord_of_spelled isWord) differ isPlain.1 isPlain.2
  | ofKey owner key => exact finds_of_free (isPlain.fewer (by decide))

end Script

end Schemagram.Blocks
