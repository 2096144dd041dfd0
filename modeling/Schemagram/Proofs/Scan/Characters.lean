import Schemagram.Proofs.Scan.Writing

/-!
# Characters of a written text

Which characters the texts of a language do not hold, and what they end in.  Both are known for a
whole form when they are known for its parts.
-/

namespace Schemagram.Writing

open Text

variable {text : List Char} {chars : List Char}

/-! ### Characters that a language does without -/

/-- No text of a language holds one of the given characters. -/
def Free (chars : List Char) (language : Language Char) : Prop :=
  ∀ text ∈ language, ∀ char ∈ text, char ∉ chars

theorem Free.not_mem {language : Language Char} (free : Free chars language)
    (written : text ∈ language) {char : Char} (isMark : char ∈ chars) : char ∉ text :=
  fun mem => free text written char mem isMark

theorem Free.mul {first second : Language Char} (isFirst : Free chars first)
    (isSecond : Free chars second) : Free chars (first * second) := by
  rintro _ written char mem
  rcases Language.mem_mul.1 written with ⟨before, isBefore, after, isAfter, rfl⟩
  rcases List.mem_append.1 mem with mem | mem
  · exact isFirst before isBefore char mem
  · exact isSecond after isAfter char mem

theorem Free.add {first second : Language Char} (isFirst : Free chars first)
    (isSecond : Free chars second) : Free chars (first + second) := by
  rintro text (written | written)
  · exact isFirst text written
  · exact isSecond text written

theorem Free.fewer {more : List Char} {language : Language Char} (free : Free more language)
    (areFewer : ∀ char ∈ chars, char ∈ more) : Free chars language := by
  intro text written char mem isMark
  exact free text written char mem (areFewer char isMark)

theorem free_one : Free chars 1 := by
  intro text written char mem
  rw [(Language.mem_one text).1 written] at mem
  cases mem

theorem free_exactly {isInside : Char → Bool} (outside : ∀ char ∈ chars, isInside char = false)
    (inside : ∀ char ∈ text, isInside char = true) : Free chars (exactly text) := by
  rintro _ rfl char mem isMark
  have isIn := inside char mem
  rw [outside char isMark] at isIn
  cases isIn

theorem free_mark {char : Char} (noMark : char ∉ chars) : Free chars (mark char) := by
  rintro _ rfl other mem
  rw [List.mem_singleton.1 mem]
  exact noMark

theorem free_blanks (noSpace : ∀ char ∈ chars, isSpace char = false) : Free chars blanks := by
  intro text written char mem isMark
  have space := written char mem
  rw [noSpace char isMark] at space
  cases space

theorem free_blank (noSpace : ∀ char ∈ chars, isSpace char = false) : Free chars blank :=
  fun text written => free_blanks noSpace text written.2

theorem free_keyword {name : String}
    (noMark : ∀ char ∈ chars, ∀ letter ∈ name.toList, small char ≠ small letter) :
    Free chars (keyword name) := by
  intro text written char mem isMark
  rcases small_mem_of_keyword written mem with ⟨letter, memLetter, same⟩
  exact noMark char isMark letter memLetter same

theorem free_word {name : List Char} (noWord : ∀ char ∈ chars, isWord char = false)
    (named : IsWord name) :
    Free chars (exactly name) :=
  free_exactly noWord named.2

/-- The letters of a keyword are those of a class, in any case. -/
theorem free_letters (isLetter : Char → Bool)
    (caseless : ∀ char, isLetter (small char) = isLetter char)
    (outside : ∀ char ∈ chars, isLetter char = false) {name : String}
    (letters : ∀ letter ∈ name.toList, isLetter letter = true) : Free chars (keyword name) := by
  apply free_keyword
  intro char isMark letter memLetter same
  have isOut := outside char isMark
  rw [← caseless, same, caseless, letters letter memLetter] at isOut
  cases isOut

/-- What holds of white space, of commas and of items, and of two languages together, holds of a
list. -/
theorem listed_of_mul {property : Language Char → Prop}
    (mul : ∀ {first second}, property first → property second → property (first * second))
    (nothing : property 0) (spaces : property blanks) (comma : property (mark ','))
    {items : List (Language Char)} (each : ∀ item ∈ items, property item) :
    property (listed items) := by
  induction items with
  | nil => exact nothing
  | cons first more ih =>
    have isFirst := each first List.mem_cons_self
    cases more with
    | nil => exact mul spaces (mul isFirst spaces)
    | cons second more =>
      have others := ih fun item mem => each item (List.mem_cons_of_mem first mem)
      rw [listed_cons_cons]
      exact mul spaces (mul isFirst (mul spaces (mul comma others)))

theorem free_listed {items : List (Language Char)} (noComma : ',' ∉ chars)
    (noSpace : ∀ char ∈ chars, isSpace char = false) (free : ∀ item ∈ items, Free chars item) :
    Free chars (listed items) :=
  listed_of_mul Free.mul (fun _ written => nomatch written) (free_blanks noSpace)
    (free_mark noComma) free

/-! ### Ends of a text -/

/-- Ends in no white space. -/
def Firm (text : List Char) : Prop := ∀ char ∈ text.getLast?, isSpace char = false

theorem Firm.append {first second : List Char} (isSecond : Firm second)
    (isFirst : second = [] → Firm first) : Firm (first ++ second) := by
  cases second with
  | nil => simpa using isFirst rfl
  | cons char more =>
    intro last mem
    rw [List.getLast?_append] at mem
    apply isSecond last
    simpa using mem

theorem firm_word (isWord : IsWord text) : Firm text :=
  fun char mem => not_isSpace_of_isWord (isWord.2 char (List.mem_of_getLast? mem))

theorem firm_keyword {name : String}
    (last : ∃ letter ∈ name.toList.getLast?, isSpace letter = false)
    (written : text ∈ keyword name) : Firm text := by
  rcases last with ⟨letter, isLast, noSpace⟩
  intro char mem
  have sameLast : text.getLast?.map small = some (small letter) := by
    rw [← List.getLast?_map, mem_keyword.1 written, List.getLast?_map, isLast]
    rfl
  rw [mem, Option.map_some, Option.some.injEq] at sameLast
  rw [← isSpace_small, sameLast, isSpace_small, noSpace]

theorem firm_append_singleton (before : List Char) {char : Char} (noSpace : isSpace char = false) :
    Firm (before ++ [char]) := by
  simp [Firm, noSpace]

end Schemagram.Writing
