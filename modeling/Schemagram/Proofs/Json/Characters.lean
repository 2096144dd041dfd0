import Schemagram.Proofs.Json.Strings

/-!
# Written values are basic text

Every piece that writing puts down is made of characters below 128, whatever the value holds: other
characters of a string are escapes, and escapes are made of hexadecimal digits.
-/

namespace Schemagram

namespace Text

/-- Made of the first 128 characters. -/
def IsBasic (text : List Char) : Prop := ∀ char ∈ text, char.toNat < 128

instance (text : List Char) : Decidable (IsBasic text) :=
  inferInstanceAs (Decidable (∀ char ∈ text, char.toNat < 128))

@[simp]
theorem isBasic_nil : IsBasic [] := List.forall_mem_nil _

@[simp]
theorem isBasic_cons {char : Char} {rest : List Char} : IsBasic (char :: rest) ↔ char.toNat < 128 ∧
    IsBasic rest :=
  List.forall_mem_cons

@[simp]
theorem isBasic_append {first rest : List Char} : IsBasic (first ++ rest) ↔ IsBasic first ∧
    IsBasic rest :=
  List.forall_mem_append

theorem isBasic_replicate (count : Nat) {char : Char} (small : char.toNat < 128) :
    IsBasic (List.replicate count char) := by
  intro other mem
  rwa [List.eq_of_mem_replicate mem]

theorem isBasic_hexDigits (width value : Nat) : IsBasic (hexDigits width value) := by
  have digit : ∀ value < 16, (hexDigit value).toNat < 128 := by decide
  induction width generalizing value with
  | zero => exact isBasic_nil
  | succ width ih => simp [hexDigits, ih, digit, Nat.mod_lt]

end Text

open Text

/-! ### Numbers -/

namespace Decimal

/-- A digit, or another character of written numbers. -/
def isNumeral (char : Char) : Bool := isDigit char || ['-', '.', 'e', '+'].contains char

theorem isNumeral_of_mem_digits {value : Nat} {char : Char} (mem : char ∈ digits value) :
    isNumeral char = true := by
  rw [isNumeral, isDigit_of_mem_digits mem, Bool.true_or]

theorem isNumeral_of_mem_integer {value : Int} {char : Char} (mem : char ∈ integer value) :
    isNumeral char = true := by
  cases value with
  | ofNat value => exact isNumeral_of_mem_digits mem
  | negSucc value =>
    rcases List.mem_cons.1 mem with rfl | memDigits
    · rfl
    · exact isNumeral_of_mem_digits memDigits

theorem toNat_lt_of_isNumeral {char : Char} (numeral : isNumeral char = true) :
    char.toNat < 128 := by
  rw [isNumeral, Bool.or_eq_true] at numeral
  rcases numeral with isDigit | isMark
  · rw [Decimal.isDigit, Bool.and_eq_true, decide_eq_true_eq, decide_eq_true_eq] at isDigit
    have upper : char.toNat ≤ '9'.toNat := isDigit.2
    exact Nat.lt_of_le_of_lt upper (by decide)
  · have small : ∀ char ∈ ['-', '.', 'e', '+'], char.toNat < 128 := by decide
    exact small char (by simpa using isMark)

end Decimal

namespace Double

open Decimal (isNumeral)

variable {digits : List Char}

theorem isNumeral_positional (numeral : ∀ char ∈ digits, isNumeral char = true) (point : Int) :
    ∀ char ∈ positional digits point, isNumeral char = true := by
  have zeros (count : Nat) : ∀ char ∈ List.replicate count '0', isNumeral char = true := by
    intro char mem
    rw [List.eq_of_mem_replicate mem]
    rfl
  have taken (count : Nat) : ∀ char ∈ digits.take count, isNumeral char = true :=
    fun char mem => numeral char (List.mem_of_mem_take mem)
  have dropped (count : Nat) : ∀ char ∈ digits.drop count, isNumeral char = true :=
    fun char mem => numeral char (List.mem_of_mem_drop mem)
  unfold positional
  split
  · exact List.forall_mem_cons.2
      ⟨rfl, List.forall_mem_cons.2 ⟨rfl, List.forall_mem_append.2 ⟨zeros _, numeral⟩⟩⟩
  · exact List.forall_mem_cons.2 ⟨rfl, List.forall_mem_cons.2 ⟨rfl, numeral⟩⟩
  · refine List.forall_mem_append.2 ⟨List.forall_mem_append.2 ⟨taken _, zeros _⟩,
      List.forall_mem_cons.2 ⟨rfl, ?_⟩⟩
    split
    · exact zeros 1
    · exact dropped _

theorem isNumeral_exponential (numeral : ∀ char ∈ digits, isNumeral char = true) (exponent : Int) :
    ∀ char ∈ exponential digits exponent, isNumeral char = true := by
  have size : ∀ char ∈ Decimal.digits exponent.natAbs, isNumeral char = true :=
    fun _ => Decimal.isNumeral_of_mem_digits
  refine List.forall_mem_append.2 ⟨List.forall_mem_append.2 ⟨?_, ?_⟩,
    List.forall_mem_cons.2 ⟨rfl, ?_⟩⟩
  · exact fun char mem => numeral char (List.mem_of_mem_take mem)
  · split
    · exact List.forall_mem_nil _
    · exact List.forall_mem_cons.2 ⟨rfl, fun char mem => numeral char (List.mem_of_mem_drop mem)⟩
  · refine List.forall_mem_cons.2 ⟨by split <;> rfl, ?_⟩
    split
    · exact List.forall_mem_cons.2 ⟨rfl, size⟩
    · exact size

/-- A double is written with the characters of numbers, or as one of the words. -/
theorem of_mem_text {words : Words} {value : Double} {char : Char} (mem : char ∈ value.text words) :
    isNumeral char = true ∨ char ∈ words.nan.toList ∨ char ∈ words.infinity.toList := by
  have sign {isNegative : Bool} (mem : char ∈ if isNegative then ['-'] else []) :
      isNumeral char = true := by
    cases isNegative with
    | true =>
      rw [List.mem_singleton.1 mem]
      rfl
    | false => cases mem
  cases value with
  | nan => exact .inr (.inl mem)
  | infinity isNegative => exact (List.mem_append.1 mem).imp sign .inr
  | finite isNegative significand exponent =>
    left
    rcases List.mem_append.1 mem with memSign | memDigits
    · exact sign memSign
    · have zero : ∀ char ∈ ['0', '.', '0'], isNumeral char = true := by decide
      split at memDigits
      · exact zero char memDigits
      · unfold layout at memDigits
        dsimp only at memDigits
        split at memDigits
        · exact isNumeral_positional (fun _ => Decimal.isNumeral_of_mem_digits) _ char memDigits
        · exact isNumeral_exponential (fun _ => Decimal.isNumeral_of_mem_digits) _ char memDigits

end Double

theorem Double.isBasic_text (value : Double) : IsBasic (value.text Json.doubleWords) := by
  have words : ∀ char ∈ Json.doubleWords.nan.toList ++ Json.doubleWords.infinity.toList,
      char.toNat < 128 := by
    decide
  intro char mem
  rcases of_mem_text mem with numeral | memWords
  · exact Decimal.toNat_lt_of_isNumeral numeral
  · exact words char (List.mem_append.2 memWords)

/-! ### Values -/

namespace Json

theorem isBasic_pointEscape (point : Nat) : IsBasic (pointEscape point) := by
  have unit (value : Nat) : IsBasic (unitEscape value) := by
    simp [unitEscape, isBasic_hexDigits]
  unfold pointEscape
  split
  · exact unit point
  · exact isBasic_append.2 ⟨unit _, unit _⟩

theorem isBasic_stringPoint (point : CodePoint) : IsBasic (stringPoint point) := by
  unfold stringPoint
  split
  · rename_i letter short
    have all : ∀ value < 0x5D,
        (shortEscape? value).all (fun letter => letter.toNat < 128) = true := by
      decide
    have small := (Option.all_eq_true _ _).1 (all point.val (lt_of_shortEscape? short)) letter short
    simpa using small
  · split
    · rename_i printable
      rw [Bool.and_eq_true, decide_eq_true_eq, decide_eq_true_eq] at printable
      have all : ∀ value ≤ 0x7E, (Char.ofNat value).toNat < 128 := by decide
      exact isBasic_cons.2 ⟨all point.val printable.2, isBasic_nil⟩
    · exact isBasic_pointEscape _

theorem isBasic_printString (text : List CodePoint) : IsBasic (printString text) := by
  have inside : IsBasic (text.flatMap stringPoint) := by
    intro char mem
    rcases List.mem_flatMap.1 mem with ⟨point, _, inPoint⟩
    exact isBasic_stringPoint point char inPoint
  simp [printString, inside]

theorem isBasic_separated {separator : List Char} (isBasic : IsBasic separator)
    {items : List (List Char)} (basicItems : ∀ item ∈ items, IsBasic item) :
    IsBasic (separated separator items) := by
  fun_induction separated separator items with
  | case1 => exact isBasic_nil
  | case2 item => exact basicItems item List.mem_cons_self
  | case3 item more _ ih =>
    rw [List.forall_mem_cons] at basicItems
    exact isBasic_append.2 ⟨isBasic_append.2 ⟨basicItems.1, isBasic⟩, ih basicItems.2⟩

theorem isBasic_printBlock {opening closing : Char} (basicOpening : opening.toNat < 128)
    (basicClosing : closing.toNat < 128) (depth : Nat) {items : List (List Char)}
    (basicItems : ∀ item ∈ items, IsBasic item) :
    IsBasic (printBlock opening closing depth items) := by
  have line (depth : Nat) : IsBasic (newLine depth) :=
    isBasic_cons.2 ⟨by decide, isBasic_replicate _ (by decide)⟩
  have separator : IsBasic (',' :: newLine (depth + 1)) := isBasic_cons.2 ⟨by decide, line _⟩
  unfold printBlock
  split
  · simp [basicOpening, basicClosing]
  · simp [basicOpening, basicClosing, line, isBasic_separated separator basicItems]

mutual

theorem isBasic_printLines (depth : Nat) : ∀ json, IsBasic (printLines depth json)
  | .null => by rw [printLines]; decide
  | .bool value => by rw [printLines]; cases value <;> decide
  | .integer value => by
    rw [printLines]
    exact fun _ mem => Decimal.toNat_lt_of_isNumeral (Decimal.isNumeral_of_mem_integer mem)
  | .double value => by rw [printLines]; exact value.isBasic_text
  | .string text => by rw [printLines]; exact isBasic_printString text
  | .array items => by
    rw [printLines]
    exact isBasic_printBlock (by decide) (by decide) depth (isBasic_blockItems (depth + 1) items)
  | .object members => by
    rw [printLines]
    exact isBasic_printBlock (by decide) (by decide) depth
      (isBasic_blockMembers (depth + 1) members)

theorem isBasic_blockItems (depth : Nat) : ∀ items, ∀ item ∈ blockItems depth items, IsBasic item
  | [] => by rw [blockItems]; exact List.forall_mem_nil _
  | item :: more => by
    rw [blockItems]
    exact List.forall_mem_cons.2 ⟨isBasic_printLines depth item, isBasic_blockItems depth more⟩

theorem isBasic_blockMembers (depth : Nat) : ∀ members, ∀ member ∈ blockMembers depth members,
    IsBasic member
  | [] => by rw [blockMembers]; exact List.forall_mem_nil _
  | (key, value) :: more => by
    rw [blockMembers]
    refine List.forall_mem_cons.2 ⟨?_, isBasic_blockMembers depth more⟩
    simp [isBasic_printString, isBasic_printLines depth value]

end

end Json

end Schemagram
