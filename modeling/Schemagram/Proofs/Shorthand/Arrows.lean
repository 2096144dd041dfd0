import Schemagram.Proofs.Shorthand.Writing
import Schemagram.Proofs.Scan.Search

/-!
# Arrows in a block

Every arrow of a block stands in the options of a column, behind a colon.  A reference has a name
before its arrow, so that none is found in a block, neither one that names its column nor one
between dotted columns.
-/

namespace Schemagram.Shorthand

open Text Writing Blocks
open Scan hiding keyword mark

variable {text rest : List Char}

/-! ### Guarded arrows -/

def arrows : List Char := ['<', '>']

/-- Every arrow of a text stands behind a colon, white space aside. -/
def IsGuarded (text : List Char) : Prop :=
  ∀ before arrow after, text = before ++ arrow :: after → arrow ∈ arrows →
    ∃ front gap, before = front ++ ':' :: gap ∧ gap ∈ blanks

/-- All texts of a language have their arrows behind colons. -/
def Guarded (language : Language Char) : Prop := ∀ text ∈ language, IsGuarded text

theorem IsGuarded.append {first second : List Char} (isFirst : IsGuarded first)
    (isSecond : IsGuarded second) :
    IsGuarded (first ++ second) := by
  intro before arrow after split isArrow
  rcases List.append_eq_append_iff.1 split with
    ⟨between, rfl, inSecond⟩ | ⟨between, inFirst, inSecond⟩
  · rcases isSecond between arrow after inSecond isArrow with ⟨front, gap, rfl, isGap⟩
    exact ⟨first ++ front, gap, by simp, isGap⟩
  · cases between with
    | nil =>
      rcases isSecond [] arrow after inSecond.symm isArrow with ⟨front, gap, none, _⟩
      simp at none
    | cons char more =>
      rw [List.cons_append, List.cons.injEq] at inSecond
      rw [← inSecond.1] at inFirst
      exact isFirst before arrow more inFirst isArrow

theorem Guarded.mul {first second : Language Char} (isFirst : Guarded first)
    (isSecond : Guarded second) :
    Guarded (first * second) := by
  intro text written
  rcases Language.mem_mul.1 written with ⟨before, isBefore, after, isAfter, rfl⟩
  exact (isFirst before isBefore).append (isSecond after isAfter)

theorem isGuarded_of_free (noArrow : ∀ arrow ∈ arrows, arrow ∉ text) : IsGuarded text := by
  rintro before arrow after rfl isArrow
  exact absurd (by simp) (noArrow arrow isArrow)

theorem guarded_of_free {language : Language Char} (free : Free arrows language) :
    Guarded language :=
  fun _ written => isGuarded_of_free fun _ isArrow => free.not_mem written isArrow

/-- The arrow of a reference in the options of a column stands behind its colon. -/
theorem guarded_target {table column : String} (isTable : IsWord table.toList)
    (isColumn : IsWord column.toList) :
    Guarded (writtenTarget table column) := by
  rintro text ⟨_, _, written⟩
  have free {language : Language Char} {part : List Char} (isFree : Free arrows language)
      (isPart : part ∈ language) :
      ∀ arrow ∈ arrows, arrow ∉ part := fun _ isArrow => isFree.not_mem isPart isArrow
  rcases Language.mem_mul.1 written with ⟨ref, isRef, _, behindRef, rfl⟩
  rcases Language.mem_mul.1 behindRef with ⟨first, isFirst, _, behindFirst, rfl⟩
  rcases Language.mem_mul.1 behindFirst with ⟨_, rfl, _, behindColon, rfl⟩
  rcases Language.mem_mul.1 behindColon with ⟨second, isSecond, _, behindSecond, rfl⟩
  rcases Language.mem_mul.1 behindSecond with ⟨_, rfl, last, isLast, rfl⟩
  have noRef := free (free_keyword (by decide)) isRef
  have noFirst := free (free_blanks (by decide)) isFirst
  have noSecond := free (free_blanks (by decide)) isSecond
  have noLast := free ((free_blanks (by decide)).mul
    (free_dotted (by decide) (by decide) isTable isColumn)) isLast
  intro before arrow after split isArrow
  have colon : arrow ≠ ':' := by
    rintro rfl
    exact absurd isArrow (by decide)
  -- There is one arrow only.
  have noneBefore : arrow ∉ ref ++ (first ++ ':' :: second) := by
    simp [noRef arrow isArrow, noFirst arrow isArrow, noSecond arrow isArrow, colon]
  have parts : ref ++ (first ++ ':' :: second) ++ '>' :: last = before ++ arrow :: after := by
    rw [← split]
    simp
  rcases (List.append_cons_inj_of_notMem noneBefore (noLast arrow isArrow)).1 parts with ⟨rfl, _, _⟩
  exact ⟨ref ++ first, second, by simp, isSecond⟩

/-! ### References without a guard -/

/-- An arrow behind a name, white space aside. -/
def IsUnguarded (text : List Char) : Prop :=
  ∃ front name gap arrow after, text = front ++ (name ++ (gap ++ arrow :: after)) ∧ IsWord name ∧
    gap ∈ blanks ∧
    arrow ∈ arrows

theorem IsGuarded.not_isUnguarded {before : List Char} (isGuarded : IsGuarded (before ++ text)) :
    ¬IsUnguarded text := by
  rintro ⟨front, name, gap, arrow, after, rfl, named, isGap, isArrow⟩
  have split : before ++ (front ++ (name ++ (gap ++ arrow :: after))) =
      (before ++ (front ++ (name ++ gap))) ++ arrow :: after := by simp
  rcases isGuarded _ arrow after split isArrow with ⟨other, otherGap, same, isOther⟩
  have nameEnd : ∀ char ∈ (before ++ (front ++ name)).getLast?, isSpace char = false := by
    have firm : Firm (before ++ (front ++ name)) :=
      ((firm_word named).append (by simp [named.1])).append (by simp [named.1])
    exact firm
  have colonEnd : ∀ char ∈ (other ++ [':']).getLast?, isSpace char = false :=
    firm_append_singleton other (by decide)
  -- What stands before the white space is both a colon and the end of a name.
  have equal : (before ++ (front ++ name)) ++ gap = (other ++ [':']) ++ otherGap := by
    simpa using same
  have lasts := congrArg List.getLast? (append_run_inj nameEnd colonEnd isGap isOther equal).1
  rw [← List.append_assoc, List.getLast?_append_of_ne_nil _ named.1, List.getLast?_concat] at lasts
  cases named.2 ':' (List.mem_of_getLast? lasts)

/-! ### References -/

theorem arrow_eq_some {found : Char} (read : arrow text = some (found, rest)) :
    text = found :: rest ∧ found ∈ arrows := by
  rcases one_eq_some.1 read with ⟨same, isArrow⟩
  exact ⟨same, by simpa [arrows] using isArrow⟩

/-- The word before a reference, if it has one: letters with a colon behind them. -/
def IsIntroduction (word : List Char) : Prop :=
  word = [] ∨ ∃ letters, word = letters ++ [':'] ∧ ∀ char ∈ letters, isWord char = true

theorem isIntroduction_of_isSpelling {word : List Char}
    (spelled : IsSpelling "ref:" word ∨ IsSpelling "fk:" word) : IsIntroduction word := by
  have reference : "ref:".toList = ['r', 'e', 'f'] ++ [':'] := by decide
  have foreignKey : "fk:".toList = ['f', 'k'] ++ [':'] := by decide
  rcases spelled with spelled | spelled
  · rcases exists_of_isSpelling_colon reference (by decide) spelled with ⟨letters, split, _, inWord⟩
    exact .inr ⟨letters, split, inWord⟩
  · rcases exists_of_isSpelling_colon foreignKey (by decide) spelled with
      ⟨letters, split, _, inWord⟩
    exact .inr ⟨letters, split, inWord⟩

theorem introduction_eq_some {result : Unit} (read : introduction text = some (result, rest)) :
    ∃ word, text = word ++ rest ∧ IsIntroduction word := by
  simp only [introduction, optionally, orElse_eq_some, keyword_eq_some, pure_eq_some] at read
  rcases read with (⟨word, spelled, split⟩ | ⟨_, word, spelled, split⟩) | ⟨_, _, rfl⟩
  · exact ⟨word, split, isIntroduction_of_isSpelling (.inl spelled)⟩
  · exact ⟨word, split, isIntroduction_of_isSpelling (.inr spelled)⟩
  · exact ⟨[], rfl, .inl rfl⟩

theorem isUnguarded_of_inlineReference {found : String × Target}
    (read : inlineReference text = some (found, rest)) : IsUnguarded text := by
  simp only [inlineReference, target, bind_eq_some] at read
  rcases read with
    ⟨_, _, readWord, _, _, readBefore, name, _, readName, _, _,
      ⟨_, _, readGap, sign, after, readArrow, _⟩, _⟩
  rcases introduction_eq_some readWord with ⟨word, rfl, _⟩
  rcases spaces_eq_some.1 readBefore with ⟨before, rfl, _⟩
  rcases word_eq_some.1 readName with ⟨rfl, named, _⟩
  rcases spaces_eq_some.1 readGap with ⟨gap, rfl, isGap, _⟩
  rcases arrow_eq_some readArrow with ⟨rfl, isArrow⟩
  exact ⟨word ++ before, name.toList, gap, sign, after, by simp, named, isGap, isArrow⟩

/-- What a reference between dotted columns begins with: a word with a colon, if it has one, white
space, a dotted column and an arrow. -/
theorem exists_of_reference {found : Reference} (read : reference text = some (found, rest)) :
    ∃ word before table column gap arrow after,
      text = word ++ (before ++ (table ++ '.' :: (column ++ (gap ++ arrow :: after)))) ∧
      IsIntroduction word ∧
        before ∈ blanks ∧ IsWord table ∧ IsWord column ∧ gap ∈ blanks ∧ arrow ∈ arrows := by
  simp only [reference, dotted, bind_eq_some, pure_eq_some] at read
  rcases read with ⟨_, _, readWord, _, _, readBefore, _, _,
    ⟨table, _, readTable, _, _, readDot, column, _, readColumn, _, rfl⟩, _, _, readGap, sign, _,
    readArrow, _⟩
  rcases introduction_eq_some readWord with ⟨word, rfl, isWord⟩
  rcases spaces_eq_some.1 readBefore with ⟨before, rfl, isBefore, _⟩
  rcases word_eq_some.1 readTable with ⟨rfl, isTable, _⟩
  rcases word_eq_some.1 readColumn with ⟨rfl, isColumn, _⟩
  rcases spaces_eq_some.1 readGap with ⟨gap, rfl, isGap, _⟩
  rcases arrow_eq_some readArrow with ⟨rfl, isArrow⟩
  rw [mark_eq_some.1 readDot]
  exact ⟨word, before, table.toList, column.toList, gap, sign, _, rfl, isWord, isBefore, isTable,
    isColumn, isGap, isArrow⟩

theorem isIntroduction_not_mem {word : List Char} (isIntroduction : IsIntroduction word)
    {char : Char} (noWord : isWord char = false) (noColon : char ≠ ':') : char ∉ word := by
  rcases isIntroduction with rfl | ⟨letters, rfl, inWord⟩
  · exact List.not_mem_nil
  · intro mem
    rcases List.mem_append.1 mem with mem | mem
    · exact not_mem_of_run inWord noWord mem
    · exact noColon (List.mem_singleton.1 mem)

/-- No reference is found in a part that guards its arrows and ends in a brace. -/
theorem reference_eq_none {before suffix : List Char}
    (isGuarded : IsGuarded (before ++ (suffix ++ ['\x7d']))) (rest : List Char) :
    reference (suffix ++ '\x7d' :: rest) = none := by
  rw [Option.eq_none_iff_forall_ne_some]
  rintro ⟨found, left⟩ read
  rcases exists_of_reference read with
    ⟨word, gap, table, column, between, sign, after, split, isIntroduction, isGap,
    isTable, isColumn, isBetween, isArrow⟩
  have noBrace : '\x7d' ∉ word ++ (gap ++ (table ++ '.' :: (column ++ between))) := by
    simp only [List.mem_append, List.mem_cons, not_or]
    exact ⟨isIntroduction_not_mem isIntroduction (by decide) (by decide),
      not_mem_of_run isGap (by decide),
      not_mem_of_run isTable.2 (by decide), by decide, not_mem_of_run isColumn.2 (by decide),
      not_mem_of_run isBetween (by decide)⟩
  have parts : suffix ++ '\x7d' :: rest =
      (word ++ (gap ++ (table ++ '.' :: (column ++ between)))) ++ sign :: after := by
    rw [split]
    simp
  rcases List.append_eq_append_iff.1 parts with ⟨more, same, behind⟩ | ⟨more, same, behind⟩
  · -- The brace stands before the arrow.
    cases more with
    | nil =>
      rw [List.nil_append, List.cons.injEq] at behind
      rw [← behind.1] at isArrow
      exact absurd isArrow (by decide)
    | cons char tail =>
      rw [List.cons_append, List.cons.injEq] at behind
      rw [same, ← behind.1] at noBrace
      simp at noBrace
  · -- The arrow stands before the brace, behind a name.
    cases more with
    | nil =>
      rw [List.nil_append, List.cons.injEq] at behind
      rw [behind.1] at isArrow
      exact absurd isArrow (by decide)
    | cons char tail =>
      rw [List.cons_append, List.cons.injEq] at behind
      apply isGuarded.not_isUnguarded
      refine ⟨word ++ (gap ++ (table ++ ['.'])), column, between, sign, tail ++ ['\x7d'], ?_,
        isColumn, isBetween, isArrow⟩
      rw [same, behind.1]
      simp

end Schemagram.Shorthand
