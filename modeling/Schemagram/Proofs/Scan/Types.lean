import Schemagram.Proofs.Scan.Characters
import Schemagram.Proofs.Tables.AsRead

/-!
# Types are read as they are written

A scan of types reads a type of its form off a text, when neither the word nor the sizes go on.
-/

namespace Schemagram

open Text Writing

/-- A type with one size at most. -/
def HasOneSize (type : List Char) : Prop := IsType type ∧ ',' ∉ type

theorem IsType.word {type : List Char} (isType : IsType type) :
    ∃ base sizes, IsWord base ∧ type = base ++ sizes := by
  cases isType with
  | plain isWord => exact ⟨type, [], isWord, by simp⟩
  | sized isWord _ => exact ⟨_, _, isWord, rfl⟩
  | sizedTwice isWord _ _ => exact ⟨_, _, isWord, rfl⟩

/-- A type is made of word characters, digits, parentheses and a comma. -/
theorem IsType.of_mem {type : List Char} (isType : IsType type) {char : Char} (mem : char ∈ type) :
    (isWord char || isDecimal char || char ∈ ['(', ',', ')']) = true := by
  cases isType with
  | plain isWord => simp [isWord.2 char mem]
  | sized isWord isFirst =>
    simp only [List.mem_append, List.mem_cons, List.not_mem_nil, or_false] at mem
    rcases mem with mem | (rfl | mem) | rfl
    · simp [isWord.2 char mem]
    · simp
    · simp [isFirst.2 char mem]
    · simp
  | sizedTwice isWord isFirst isSecond =>
    simp only [List.mem_append, List.mem_cons, List.not_mem_nil, or_false] at mem
    rcases mem with mem | ((rfl | mem) | rfl | mem) | rfl
    · simp [isWord.2 char mem]
    · simp
    · simp [isFirst.2 char mem]
    · simp
    · simp [isSecond.2 char mem]
    · simp

theorem IsType.free {type chars : List Char} (isType : IsType type)
    (outside : ∀ char ∈ chars, (isWord char || isDecimal char || char ∈ ['(', ',', ')']) = false) :
    Free chars (exactly type) :=
  free_exactly outside fun _ mem => isType.of_mem mem

theorem HasOneSize.free {type chars : List Char} (isType : HasOneSize type)
    (outside : ∀ char ∈ chars, (isWord char || isDecimal char || char ∈ ['(', ')']) = false) :
    Free chars (exactly type) := by
  apply free_exactly outside
  intro char mem
  have noComma : char ≠ ',' := by
    rintro rfl
    exact isType.2 mem
  simpa [noComma] using isType.1.of_mem mem

/-- A type with one size at most is a word, or a word with digits in parentheses behind it. -/
theorem hasOneSize_iff {type : List Char} :
    HasOneSize type ↔ IsWord type ∨
      ∃ base size, IsWord base ∧ IsDigits size ∧ type = base ++ '(' :: (size ++ [')']) := by
  constructor
  · rintro ⟨isType, noComma⟩
    cases isType with
    | plain isWord => exact .inl isWord
    | sized isWord isFirst => exact .inr ⟨_, _, isWord, isFirst, rfl⟩
    | sizedTwice => simp at noComma
  · rintro (isWord | ⟨base, size, isBase, isSize, rfl⟩)
    · exact ⟨.plain isWord, not_mem_of_run isWord.2 (by decide)⟩
    · have noComma : ',' ∉ base ∧ ',' ∉ size :=
        ⟨not_mem_of_run isBase.2 (by decide), not_mem_of_run isSize.2 (by decide)⟩
      exact ⟨.sized isBase isSize, by simp [noComma]⟩

theorem IsType.ne_nil {type : List Char} (isType : IsType type) : type ≠ [] := by
  rcases isType.word with ⟨base, sizes, isBase, rfl⟩
  simp [isBase.1]

/-- A type begins with no white space. -/
theorem IsType.ends {type rest : List Char} (isType : IsType type) :
    Ends isSpace (type ++ rest) := by
  rcases isType.word with ⟨base, sizes, isBase, rfl⟩
  rw [List.append_assoc]
  exact ends_isSpace_of_isWord isBase

theorem IsType.firm {type : List Char} (isType : IsType type) : Firm type := by
  have closing (before : List Char) : Firm (before ++ [')']) :=
    firm_append_singleton before (by decide)
  cases isType with
  | plain isWord => exact firm_word isWord
  | sized isWord _ => rw [← List.append_assoc]; exact closing _
  | sizedTwice isWord _ _ => rw [← List.append_assoc]; exact closing _

namespace Scan

variable {text rest : List Char} {second : Scan (List Char)}

theorem precision_append {first : List Char} (more : List Char) (isFirst : IsDigits first)
    (ends : Ends isDecimal (more ++ ')' :: rest))
    (read : second (more ++ ')' :: rest) = some (more, ')' :: rest)) :
    precision second ('(' :: (first ++ (more ++ ')' :: rest))) =
      some ('(' :: first ++ more ++ [')'], rest) := by
  simp only [precision, bind_eq_some, pure_eq_some]
  exact ⟨(), _, mark_cons '(' _, first, _, someRun_eq_some.2 ⟨rfl, isFirst.1, isFirst.2, ends⟩,
    more, _, read,
    (), rest, mark_cons ')' rest, rfl, rfl⟩

theorem precision_eq_none (ends : Ends (· = '(') rest) : precision second rest = none := by
  cases rest with
  | nil => rfl
  | cons char more =>
    rw [ends_cons, decide_eq_false_iff_not] at ends
    simp [precision, mark, one, ends, bind, StateT.bind]

theorem type_append_sizes {base : List Char} (sizes : List Char) (isBase : IsWord base)
    (ends : Ends isWord (sizes ++ rest))
    (read : (precision second <|> pure []) (sizes ++ rest) = some (sizes, rest)) :
    type (precision second) (base ++ (sizes ++ rest)) =
      some (String.ofList (base ++ sizes), rest) := by
  have isName : IsWord (String.ofList base).toList := by
    rwa [String.toList_ofList]
  have readBase := word_append isName ends
  rw [String.toList_ofList] at readBase
  simp only [type, bind_eq_some, pure_eq_some]
  exact ⟨_, _, readBase, sizes, rest, read, String.ofList_append.symm, rfl⟩

/-- A scan reads the types of a form. -/
def ReadsTypes (isType : List Char → Prop) (precision : Scan (List Char)) : Prop :=
  ∀ ⦃name : String⦄ ⦃rest : List Char⦄, isType name.toList → Ends isWord rest →
    Ends (· = '(') rest →
    type precision (name.toList ++ rest) = some (name, rest)

/-- A type is read when its second size is, if it has one. -/
theorem type_append {name : String} (isType : IsType name.toList)
    (noSecond : second (')' :: rest) = some ([], ')' :: rest))
    (readSecond : ',' ∈ name.toList → ∀ digits, IsDigits digits →
      second (',' :: digits ++ ')' :: rest) = some (',' :: digits, ')' :: rest))
    (endsWord : Ends isWord rest) (endsSize : Ends (· = '(') rest) :
    type (precision second) (name.toList ++ rest) = some (name, rest) := by
  have opening (more : List Char) : Ends isWord ('(' :: more) := ends_cons.2 (by decide)
  rw [← String.ofList_toList (s := name)]
  generalize name.toList = written at isType readSecond
  rw [String.toList_ofList]
  cases isType with
  | plain isBase =>
    have noSize : precision second ([] ++ rest) = none := precision_eq_none endsSize
    have read := type_append_sizes [] isBase endsWord (orElse_eq_some.2 (.inr ⟨noSize, rfl⟩))
    simpa using read
  | @sized base first isBase isFirst =>
    have sizes := precision_append [] isFirst (ends_cons.2 (by decide)) noSecond
    have read := type_append_sizes ('(' :: first ++ [')']) isBase (opening _)
      (orElse_eq_some.2 (.inl (by simpa using sizes)))
    simpa using read
  | @sizedTwice base first second isBase isFirst isSecond =>
    have sizes := precision_append (',' :: second) isFirst (ends_cons.2 (by decide))
      (readSecond (by simp) second isSecond)
    have read := type_append_sizes ('(' :: first ++ ',' :: second ++ [')']) isBase (opening _)
      (orElse_eq_some.2 (.inl (by simpa using sizes)))
    simpa using read

theorem readsTypes_twoSizes : ReadsTypes IsType (precision secondDigits) := by
  intro name rest isType endsWord endsSize
  refine type_append isType rfl (fun _ digits isDigits => ?_) endsWord endsSize
  rw [secondDigits, orElse_eq_some]
  left
  simp only [bind_eq_some, pure_eq_some]
  exact ⟨(), _, mark_cons ',' _, digits, _,
    someRun_eq_some.2 ⟨rfl, isDigits.1, isDigits.2, ends_cons.2 (by decide)⟩, rfl, rfl⟩

theorem readsTypes_oneSize : ReadsTypes HasOneSize (precision (pure [])) := by
  intro name rest isType endsWord endsSize
  exact type_append isType.1 rfl (fun comma => absurd comma isType.2) endsWord endsSize

end Scan

end Schemagram
