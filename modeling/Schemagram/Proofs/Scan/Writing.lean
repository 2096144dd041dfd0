import Mathlib.Computability.Language
import Schemagram.Proofs.Scan.Forms
import Schemagram.Text.Piece

/-!
# What scans take of a written text

The forms of a notation as languages: white space that may vary, keywords in any case of their basic
letters, marks, and words.  A scan of a form takes any text of its language off what follows,
provided that the text behind it does not go on with the form.
-/

namespace Schemagram.Writing

open Text Scan

/-- White space that may be missing. -/
def blanks : Language Char := {text | ∀ char ∈ text, isSpace char = true}

/-- White space. -/
def blank : Language Char := {text | text ≠ [] ∧ ∀ char ∈ text, isSpace char = true}

/-- A keyword in any case of its basic letters. -/
def keyword (name : String) : Language Char := {text | text.map small = name.toList.map small}

def exactly (text : List Char) : Language Char := {written | written = text}

def mark (char : Char) : Language Char := exactly [char]

/-- Items with commas between them and with any white space around them, at least one. -/
def listed : List (Language Char) → Language Char
  | [] => 0
  | [item] => blanks * (item * blanks)
  | item :: more => blanks * (item * (blanks * (mark ',' * listed more)))

variable {text rest : List Char}

theorem mem_blanks : text ∈ blanks ↔ ∀ char ∈ text, isSpace char = true := Iff.rfl

theorem mem_keyword {name : String} : text ∈ keyword name ↔
    text.map small = name.toList.map small :=
  Iff.rfl

theorem mem_exactly {written : List Char} : written ∈ exactly text ↔ written = text := Iff.rfl

theorem mem_mark {char : Char} : text ∈ mark char ↔ text = [char] := Iff.rfl

/-! ### Characters -/

theorem isWord_small (char : Char) : isWord (small char) = isWord char :=
  test_small (by decide) char

theorem isSpace_small (char : Char) : isSpace (small char) = isSpace char :=
  test_small (by decide) char

/-- A character that is no letter is in small case only if it is itself. -/
theorem eq_of_small_eq {char other : Char} (noWord : isWord other = false)
    (same : small char = other) :
    char = other := by
  by_cases capital : 'A' ≤ char ∧ char ≤ 'Z'
  · have all : ∀ point ≤ 'Z'.toNat, 'A'.toNat ≤ point → isWord (Char.ofNat point) = true := by
      decide
    have inWord := all char.toNat capital.2 capital.1
    rw [Char.ofNat_toNat, ← isWord_small, same, noWord] at inWord
    cases inWord
  · rwa [small_of_not_capital capital] at same

theorem caseRelative_cases (char : Char) :
    caseRelative char = char ∨ char ∈ ['\u212a', '\u017f', '\u0130', '\u0131'] := by
  unfold caseRelative
  split
  · simp_all
  · split
    · simp_all
    · split
      · simp_all
      · exact .inl rfl

theorem isWord_of_isSameLetter {letter char : Char} (inWord : isWord letter = true)
    (same : isSameLetter letter char = true) : isWord char = true := by
  simp only [isSameLetter, Bool.or_eq_true, decide_eq_true_eq] at same
  rcases same with same | same
  · rw [← isWord_small, ← same, isWord_small, inWord]
  · rcases caseRelative_cases char with noRelative | isRelative
    · rw [← noRelative, ← same, isWord_small, inWord]
    · have all : ∀ relative ∈ ['\u212a', '\u017f', '\u0130', '\u0131'], isWord relative = true := by
        decide +kernel
      exact all char isRelative

theorem isWord_of_isSpace {char : Char} (space : isSpace char = true) : isWord char = false := by
  rw [← Bool.not_eq_true]
  intro inWord
  rw [not_isSpace_of_isWord inWord] at space
  cases space

/-! ### What follows a form -/

theorem ends_append {isInside : Char → Bool} (ends : Ends isInside text) (nonempty : text ≠ []) :
    Ends isInside (text ++ rest) := by
  cases text with
  | nil => exact absurd rfl nonempty
  | cons char more => exact ends

theorem ends_blank {isInside : Char → Bool}
    (outside : ∀ char, isSpace char = true → isInside char = false) (written : text ∈ blank) :
    Ends isInside (text ++ rest) := by
  apply ends_append _ written.1
  intro char mem
  exact outside char (written.2 char (List.mem_of_mem_head? mem))

theorem ends_blanks {isInside : Char → Bool}
    (outside : ∀ char, isSpace char = true → isInside char = false) (written : text ∈ blanks)
    (ends : Ends isInside rest) : Ends isInside (text ++ rest) := by
  cases text with
  | nil => exact ends
  | cons char more => exact ends_blank outside ⟨by simp, written⟩

theorem ends_isSpace_of_isWord (isWord : IsWord text) : Ends isSpace (text ++ rest) := by
  apply ends_append _ isWord.1
  intro char mem
  exact not_isSpace_of_isWord (isWord.2 char (List.mem_of_mem_head? mem))

theorem small_mem_of_keyword {name : String} (written : text ∈ keyword name) {char : Char}
    (mem : char ∈ text) : ∃ letter ∈ name.toList, small char = small letter := by
  have inKeyword : small char ∈ name.toList.map small := by
    rw [← mem_keyword.1 written]
    exact List.mem_map_of_mem mem
  rcases List.mem_map.1 inKeyword with ⟨letter, memLetter, same⟩
  exact ⟨letter, memLetter, same.symm⟩

theorem ends_keyword {name : String} (first : ∃ letter ∈ name.toList.head?, isSpace letter = false)
    (written : text ∈ keyword name) : Ends isSpace (text ++ rest) := by
  rcases first with ⟨letter, isFirst, noSpace⟩
  have sameFirst : text.head?.map small = some (small letter) := by
    rw [← List.head?_map, mem_keyword.1 written, List.head?_map, isFirst]
    rfl
  rcases Option.map_eq_some_iff.1 sameFirst with ⟨char, isChar, same⟩
  apply ends_append
  · intro other mem
    rw [isChar] at mem
    cases mem
    rw [← isSpace_small, same, isSpace_small, noSpace]
  · rintro rfl
    cases isChar

/-- A keyword is made of word characters when its letters are. -/
theorem isWord_of_keyword {name : String} (letters : IsWord name.toList)
    (written : text ∈ keyword name) :
    IsWord text := by
  constructor
  · rintro rfl
    exact letters.1 (List.map_eq_nil_iff.1 written.symm)
  · intro char mem
    rcases small_mem_of_keyword written mem with ⟨letter, memLetter, same⟩
    rw [← isWord_small, same, isWord_small]
    exact letters.2 letter memLetter

/-- A keyword in lower case. -/
theorem lower_of_keyword {name : String}
    (basic : ∀ letter ∈ name.toList, small letter ≠ '\u212a' ∧ small letter ≠ '\u0130')
    (written : text ∈ keyword name) : lower text = name.toList.map small := by
  have each : ∀ char ∈ text, lowerChar char = [small char] := by
    intro char mem
    rcases small_mem_of_keyword written mem with ⟨letter, memLetter, same⟩
    have other := basic letter memLetter
    unfold lowerChar
    rw [if_neg, if_neg]
    · rintro rfl
      exact other.2 same.symm
    · rintro rfl
      exact other.1 same.symm
  rw [lower, ← mem_keyword.1 written, List.flatMap_congr each, List.map_eq_flatMap]

theorem isWord_of_isSpelling {name : String} (letters : ∀ char ∈ name.toList, isWord char = true)
    (spelled : IsSpelling name text) : ∀ char ∈ text, isWord char = true := by
  intro char mem
  rcases spelled.exists_letter mem with ⟨letter, isLetter, same⟩
  exact isWord_of_isSameLetter (letters letter isLetter) same

theorem isWord_of_spelled {name : String} (letters : IsWord name.toList)
    (spelled : IsSpelling name text) :
    IsWord text := by
  refine ⟨?_, isWord_of_isSpelling letters.2 spelled⟩
  rintro rfl
  exact letters.1 (List.eq_nil_of_length_eq_zero (List.Forall₂.length_eq spelled))

/-- However a word with a colon behind it is spelled, it is a word with a colon behind it. -/
theorem exists_of_isSpelling_colon {name : String} {letters word : List Char}
    (same : name.toList = letters ++ [':']) (inWord : ∀ letter ∈ letters, isWord letter = true)
    (spelled : IsSpelling name word) :
    ∃ spelling, word = spelling ++ [':'] ∧ spelling.length = letters.length ∧
      ∀ char ∈ spelling, isWord char = true := by
  rw [IsSpelling, same] at spelled
  clear same
  induction letters generalizing word with
  | nil =>
    cases spelled with
    | cons isColon nothing =>
      cases nothing
      rw [eq_of_small_eq (by decide) (small_eq_of_isSameLetter (by decide) isColon)]
      exact ⟨[], rfl, rfl, fun _ mem => nomatch mem⟩
  | cons letter more ih =>
    cases spelled with
    | cons isFirst spelledMore =>
      rcases ih (fun other mem => inWord other (List.mem_cons_of_mem letter mem)) spelledMore with
        ⟨spelling, rfl, length, areWords⟩
      refine ⟨_ :: spelling, rfl, congrArg (· + 1) length, ?_⟩
      rintro char (_ | ⟨_, mem⟩)
      · exact isWord_of_isSameLetter (inWord letter List.mem_cons_self) isFirst
      · exact areWords char mem

/-! ### Scans of a form -/

theorem isSpelling_of_keyword {name : String} (written : text ∈ keyword name) :
    IsSpelling name text := by
  have sameLength : name.toList.length = text.length := by
    simpa using (congrArg List.length written).symm
  refine List.forall₂_iff_get.2 ⟨sameLength, ?_⟩
  intro index inName inText
  have same := congrArg (·[index]?) (mem_keyword.1 written)
  simp only [List.getElem?_map, List.getElem?_eq_getElem inName, List.getElem?_eq_getElem inText,
    Option.map_some, Option.some.injEq] at same
  exact isSameLetter_of_small_eq same

/-- Only a k, an s and an i are spelled in another way than in the case of basic letters. -/
theorem keyword_of_isSpelling {name : String}
    (basic : ∀ letter ∈ name.toList, small letter ∉ ['k', 's', 'i'])
    (spelled : IsSpelling name text) : text ∈ keyword name := by
  rw [mem_keyword]
  rw [IsSpelling] at spelled
  generalize name.toList = letters at basic spelled
  induction spelled with
  | nil => rfl
  | cons same _ ih =>
    rw [List.map_cons, List.map_cons, small_eq_of_isSameLetter (basic _ List.mem_cons_self) same,
      ih fun letter mem => basic letter (List.mem_cons_of_mem _ mem)]

theorem keyword_append {name : String} (written : text ∈ keyword name) (rest : List Char) :
    Scan.keyword name (text ++ rest) = some ((), rest) :=
  keyword_eq_some.2 ⟨text, isSpelling_of_keyword written, rfl⟩

/-- A keyword is not taken for another one that differs from it in a letter. -/
theorem keyword_append_eq_none {name other : String} (index : Nat) (expected letter : Char)
    (inName : name.toList[index]? = some expected) (inOther : other.toList[index]? = some letter)
    (basic : small expected ∉ ['k', 's', 'i']) (differ : small letter ≠ small expected)
    (written : text ∈ keyword other) (rest : List Char) :
    Scan.keyword name (text ++ rest) = none := by
  rw [Option.eq_none_iff_forall_ne_some]
  rintro ⟨_, after⟩ read
  rcases keyword_eq_some.1 read with ⟨spelling, spelled, split⟩
  have inText : (text[index]?).map small = some (small letter) := by
    rw [← List.getElem?_map, mem_keyword.1 written, List.getElem?_map, inOther]
    rfl
  rcases Option.map_eq_some_iff.1 inText with ⟨char, isChar, sameLetter⟩
  have inSpelling : index < spelling.length := by
    rw [← List.Forall₂.length_eq spelled]
    exact (List.getElem?_eq_some_iff.1 inName).1
  have atIndex : spelling[index]? = some char := by
    have whole : (text ++ rest)[index]? = some char := by
      rw [List.getElem?_append_left (List.getElem?_eq_some_iff.1 isChar).1, isChar]
    rwa [split, List.getElem?_append_left inSpelling] at whole
  have same := (List.forall₂_iff_get.1 spelled).2 index
    (List.getElem?_eq_some_iff.1 inName).1 inSpelling
  rw [List.get_eq_getElem, List.get_eq_getElem, (List.getElem?_eq_some_iff.1 inName).2,
    (List.getElem?_eq_some_iff.1 atIndex).2] at same
  rw [← sameLetter, small_eq_of_isSameLetter basic same] at differ
  exact differ rfl

/-- Keywords that differ in their last letter end differently, however they are spelled. -/
theorem getLast?_ne_of_isSpelling {name other : String} {expected letter : Char}
    (inName : name.toList.getLast? = some expected) (inOther : other.toList.getLast? = some letter)
    (basic : small expected ∉ ['k', 's', 'i']) (differ : small letter ≠ small expected)
    {spelling : List Char} (spelled : IsSpelling name spelling) (written : text ∈ keyword other) :
    spelling.getLast? ≠ text.getLast? := by
  intro same
  have inText : text.getLast?.map small = some (small letter) := by
    rw [← List.getLast?_map, mem_keyword.1 written, List.getLast?_map, inOther]
    rfl
  rcases Option.map_eq_some_iff.1 inText with ⟨char, isLast, sameLetter⟩
  have reversed := List.forall₂_reverse_iff.2 spelled
  rw [← List.head?_reverse] at inName
  rw [isLast, ← List.head?_reverse] at same
  generalize name.toList.reverse = letters at inName reversed
  generalize spelling.reverse = chars at same reversed
  cases reversed with
  | nil => cases inName
  | cons isSame _ =>
    cases inName
    cases same
    rw [← sameLetter, small_eq_of_isSameLetter basic isSame] at differ
    exact differ rfl

theorem someSpaces_append (written : text ∈ blank) (ends : Ends isSpace rest) :
    someSpaces (text ++ rest) = some ((), rest) :=
  someSpaces_eq_some.2 ⟨text, rfl, written.1, written.2, ends⟩

theorem spaces_append (written : text ∈ blanks) (ends : Ends isSpace rest) :
    spaces (text ++ rest) = some ((), rest) :=
  spaces_eq_some.2 ⟨text, rfl, written, ends⟩

theorem mark_cons (char : Char) (rest : List Char) :
    Scan.mark char (char :: rest) = some ((), rest) :=
  mark_eq_some.2 rfl

theorem word_append {name : String} (isWord : IsWord name.toList) (ends : Ends Text.isWord rest) :
    word (name.toList ++ rest) = some (name, rest) :=
  word_eq_some.2 ⟨rfl, isWord, ends⟩

/-! ### Languages within others -/

/-- Every text of a language is a text of another one. -/
def Within (language other : Language Char) : Prop := ∀ text ∈ language, text ∈ other

theorem within_refl (language : Language Char) : Within language language :=
  fun _ written => written

theorem Within.mul {first second other last : Language Char} (isFirst : Within first other)
    (isSecond : Within second last) : Within (first * second) (other * last) := by
  intro text written
  rcases Language.mem_mul.1 written with ⟨before, isBefore, after, isAfter, rfl⟩
  exact Language.append_mem_mul (isFirst before isBefore) (isSecond after isAfter)

/-! ### Lists -/

theorem comma_not_mem_blanks (written : text ∈ blanks) : ',' ∉ text :=
  not_mem_of_run written (by decide)

theorem listed_cons_cons (first second : Language Char) (more : List (Language Char)) :
    listed (first :: second :: more) =
      blanks * (first * (blanks * (mark ',' * listed (second :: more)))) := rfl

/-- Cutting a list at its commas gives its items back, when no item holds a comma and white space
around an item makes no difference. -/
theorem map_splitOn_listed {Item Out : Type} {language : Item → Language Char}
    {read : List Char → Out} {result : Item → Out} {items : List Item}
    (free : ∀ item ∈ items, ∀ text ∈ language item, ',' ∉ text)
    (reads : ∀ item ∈ items, ∀ before ∈ blanks, ∀ text ∈ language item, ∀ after ∈ blanks,
      read (before ++ text ++ after) = result item)
    (written : text ∈ listed (items.map language)) :
    (splitOn ',' text).map read = items.map result := by
  have freePiece : ∀ item ∈ items, ∀ before ∈ blanks, ∀ text ∈ language item, ∀ after ∈ blanks,
      ',' ∉ before ++ text ++ after := by
    intro item mem before isBefore text isText after isAfter
    simp only [List.mem_append, not_or]
    exact ⟨⟨comma_not_mem_blanks isBefore, free item mem text isText⟩, comma_not_mem_blanks isAfter⟩
  induction items generalizing text with
  | nil => cases written
  | cons first more ih =>
    cases more with
    | nil =>
      rcases Language.mem_mul.1 written with ⟨before, isBefore, _, inner, rfl⟩
      rcases Language.mem_mul.1 inner with ⟨item, isItem, after, isAfter, rfl⟩
      have whole := freePiece first List.mem_cons_self before isBefore item isItem after isAfter
      rw [← List.append_assoc, splitOn_of_not_mem whole, List.map_singleton, List.map_singleton,
        reads first List.mem_cons_self before isBefore item isItem after isAfter]
    | cons second more =>
      rw [List.map_cons, List.map_cons, listed_cons_cons] at written
      rcases Language.mem_mul.1 written with ⟨before, isBefore, _, inner, rfl⟩
      rcases Language.mem_mul.1 inner with ⟨item, isItem, _, behindItem, rfl⟩
      rcases Language.mem_mul.1 behindItem with ⟨after, isAfter, _, behindGap, rfl⟩
      rcases Language.mem_mul.1 behindGap with ⟨_, rfl, others, isOthers, rfl⟩
      have piece := freePiece first List.mem_cons_self before isBefore item isItem after isAfter
      have cut : splitOn ',' (before ++ (item ++ (after ++ ([','] ++ others)))) =
          (before ++ item ++ after) :: splitOn ',' others := by
        rw [← splitOn_append_cons piece]
        simp
      have freeMore := fun item mem => free item (List.mem_cons_of_mem first mem)
      have readsMore := fun item mem => reads item (List.mem_cons_of_mem first mem)
      have freePieces := fun item mem => freePiece item (List.mem_cons_of_mem first mem)
      rw [cut, List.map_cons, reads first List.mem_cons_self before isBefore item isItem
        after isAfter, ih freeMore readsMore isOthers freePieces]
      rfl

theorem within_listed {Item : Type} {language other : Item → Language Char}
    (within : ∀ item, Within (language item) (other item)) (items : List Item) :
    Within (listed (items.map language)) (listed (items.map other)) := by
  induction items with
  | nil => exact within_refl _
  | cons first more ih =>
    cases more with
    | nil => exact (within_refl _).mul ((within first).mul (within_refl _))
    | cons second more =>
      have others := (within_refl blanks).mul ((within_refl (mark ',')).mul ih)
      exact (within_refl _).mul ((within first).mul others)

/-- Items with commas between them, and white space only around the commas. -/
def joined : List (Language Char) → Language Char
  | [] => 0
  | [item] => item
  | item :: more => item * (blanks * (mark ',' * (blanks * joined more)))

/-- A list is white space around what begins with its first item and ends with its last. -/
theorem listed_eq_joined (items : List (Language Char)) :
    listed items = blanks * (joined items * blanks) := by
  induction items with
  | nil => simp [listed, joined]
  | cons first more ih =>
    cases more with
    | nil => rfl
    | cons second more => simp only [listed_cons_cons, ih, joined, mul_assoc]

theorem nil_mem_blanks : [] ∈ blanks := fun _ mem => nomatch mem

theorem mem_listed_of_joined {items : List (Language Char)} (written : text ∈ joined items) :
    text ∈ listed items := by
  rw [listed_eq_joined]
  have behind := Language.append_mem_mul written nil_mem_blanks
  rw [List.append_nil] at behind
  exact Language.append_mem_mul nil_mem_blanks behind

end Schemagram.Writing
