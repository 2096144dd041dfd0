import Schemagram.Proofs.Json.Strings
import Schemagram.Proofs.Scan.Forms

/-!
# Steps of reading

What reading does at one step: it takes a word or a number, or it goes into an array or an object
and reads one part after the other.  Whatever is read as a value tells what it begins with, so that
the white space before it is skipped exactly.
-/

namespace Schemagram.Json

open Text (CodePoint Ends ends_cons dropWhile_run)

variable {limit? : Option Nat}

/-- Nothing behind a number goes on with it. -/
def EndsNumber (rest : List Char) : Prop :=
  Ends (fun char => Decimal.isDigit char || char = '.' || char = 'e' || char = 'E') rest

theorem EndsNumber.digit {rest : List Char} (ends : EndsNumber rest) :
    Ends Decimal.isDigit rest := by
  intro char mem
  have outside := ends char mem
  simp only [Bool.or_eq_false_iff] at outside
  exact outside.1.1.1

theorem exponent?_of_ends {rest : List Char} (ends : EndsNumber rest) : exponent? rest = none := by
  cases rest with
  | nil => rfl
  | cons char more =>
    simp only [EndsNumber, ends_cons, Bool.or_eq_false_iff, decide_eq_false_iff_not] at ends
    simp [exponent?, ends.1.2, ends.2]

/-! ### Words -/

theorem word?_eq_none {text : List Char} (noWord : ∀ word ∈ words, ¬ word.1.toList <+: text) :
    word? text = none := by
  rw [word?, List.findSome?_eq_none_iff]
  rintro ⟨word, value⟩ mem
  have noPrefix := noWord _ mem
  rw [← List.isPrefixOf_iff_prefix] at noPrefix
  exact if_neg noPrefix

/-- No word begins with a digit, or with a minus sign and a digit. -/
theorem word?_digit {first : Char} (isDigit : Decimal.isDigit first = true) (rest : List Char) :
    word? (first :: rest) = none ∧ word? ('-' :: first :: rest) = none := by
  have other (letter : Char) (noDigit : Decimal.isDigit letter = false) : letter ≠ first := by
    rintro rfl
    rw [isDigit] at noDigit
    cases noDigit
  constructor
  · apply word?_eq_none
    simp (disch := decide) [words, List.cons_prefix_cons, other]
  · apply word?_eq_none
    simp (disch := decide) [words, List.cons_prefix_cons, other]

theorem scalar_null (rest : List Char) :
    scalar limit? ("null".toList ++ rest) = .ok (.null, rest) := by
  simp [scalar, word?, words, ← String.length_toList]

theorem scalar_bool (value : Bool) (rest : List Char) :
    scalar limit? ((if value then "true" else "false").toList ++ rest) =
      .ok (.bool value, rest) := by
  cases value with
  | false => simp [scalar, word?, words, ← String.length_toList]
  | true => simp [scalar, word?, words, ← String.length_toList]

theorem scalar_nan (rest : List Char) :
    scalar limit? ("NaN".toList ++ rest) = .ok (.double .nan, rest) := by
  simp [scalar, word?, words, ← String.length_toList]

theorem scalar_infinity (isNegative : Bool) (rest : List Char) :
    scalar limit? ((if isNegative then "-Infinity" else "Infinity").toList ++ rest) =
      .ok (.double (.infinity isNegative), rest) := by
  cases isNegative with
  | false => simp [scalar, word?, words, ← String.length_toList]
  | true => simp [scalar, word?, words, ← String.length_toList]

/-! ### What a value begins with -/

/-- Marks and white space begin no scalar. -/
theorem scalar_error {char : Char}
    (isMark : char ∈ ['"', '[', ']', '\x7b', '\x7d', ' ', '\t', '\n', '\r', '\ufeff'])
    (rest : List Char) : scalar limit? (char :: rest) = .error ⟨.expectedValue, char :: rest⟩ := by
  have noWord : word? (char :: rest) = none := by
    apply word?_eq_none
    simp only [List.mem_cons, List.not_mem_nil, or_false] at isMark
    rcases isMark with rfl | rfl | rfl | rfl | rfl | rfl | rfl | rfl | rfl | rfl <;>
      simp [words, List.cons_prefix_cons]
  have noNumber : number? (char :: rest) = none := by
    simp only [List.mem_cons, List.not_mem_nil, or_false] at isMark
    rcases isMark with rfl | rfl | rfl | rfl | rfl | rfl | rfl | rfl | rfl | rfl <;>
      simp [number?, takeSign, whole?, Decimal.isDigit]
  simp only [scalar, noWord, noNumber]

theorem value_eq_scalar {char : Char} (noMark : char ∉ ['"', '[', '\x7b']) (steps : Nat)
    (rest : List Char) :
    value limit? (steps + 1) (char :: rest) = scalar limit? (char :: rest) := by
  rw [value]
  all_goals
    rintro _ same
    cases same
    simp at noMark

theorem value_of_scalar {text rest : List Char} {json : Json}
    (read : scalar limit? text = .ok (json, rest)) (steps : Nat) :
    value limit? (steps + 1) text = .ok (json, rest) := by
  cases text with
  | nil => cases read
  | cons char more =>
    by_cases isMark : char ∈ ['"', '[', '\x7b']
    · rw [scalar_error (by simp at isMark ⊢; tauto)] at read
      cases read
    · rw [value_eq_scalar isMark]
      exact read

/-- Neither white space nor a closing bracket nor a byte order mark begins a value. -/
theorem head_of_value {steps : Nat} {text rest : List Char} {json : Json}
    (read : value limit? steps text = .ok (json, rest)) :
    ∃ first more, text = first :: more ∧ isBlank first = false ∧ first ≠ ']' ∧
    first ≠ '\ufeff' := by
  cases steps with
  | zero => cases read
  | succ steps =>
    cases text with
    | nil => cases read
    | cons first more =>
      have noScalar : first ∉ [' ', '\t', '\n', '\r', ']', '\ufeff'] := by
        intro mem
        have noMark : first ∉ ['"', '[', '\x7b'] := by
          simp only [List.mem_cons, List.not_mem_nil, or_false] at mem
          rcases mem with rfl | rfl | rfl | rfl | rfl | rfl <;> simp
        rw [value_eq_scalar noMark, scalar_error (by simp at mem ⊢; tauto)] at read
        cases read
      simp only [List.mem_cons, List.not_mem_nil, or_false, not_or] at noScalar
      refine ⟨first, more, rfl, ?_, noScalar.2.2.2.2.1, noScalar.2.2.2.2.2⟩
      simp [isBlank, noScalar]

/-! ### Containers -/

theorem afterBlanks_of_ends {text : List Char} (ends : Ends isBlank text) :
    afterBlanks text = text :=
  dropWhile_run (List.forall_mem_nil _) ends

theorem items_last {steps : Nat} {text rest after : List Char} {item : Json}
    (read : value limit? steps text = .ok (item, rest)) (closed : afterBlanks rest = ']' :: after) :
    items limit? (steps + 1) text = .ok ([item], after) := by
  rw [items, read]
  simp only [closed]

theorem items_next {steps : Nat} {text rest more after : List Char} {item : Json}
    {others : List Json} (read : value limit? steps text = .ok (item, rest))
    (parted : afterBlanks rest = ',' :: more)
    (readMore : items limit? steps (afterBlanks more) = .ok (others, after)) :
    items limit? (steps + 1) text = .ok (item :: others, after) := by
  rw [items, read]
  simp only [parted, readMore]
  rfl

theorem members_last {steps : Nat} {text behindKey rest after : List Char} {key : List CodePoint}
    {item : Json} (readKey : memberKey text = .ok (key, behindKey))
    (read : value limit? steps behindKey = .ok (item, rest))
    (closed : afterBlanks rest = '\x7d' :: after) :
    members limit? (steps + 1) text = .ok ([(key, item)], after) := by
  rw [members, readKey]
  simp only [read, closed]

theorem members_next {steps : Nat} {text behindKey rest more after : List Char}
    {key : List CodePoint} {item : Json} {others : List (List CodePoint × Json)}
    (readKey : memberKey text = .ok (key, behindKey))
    (read : value limit? steps behindKey = .ok (item, rest))
    (parted : afterBlanks rest = ',' :: more)
    (readMore : members limit? steps (afterBlanks more) = .ok (others, after)) :
    members limit? (steps + 1) text = .ok ((key, item) :: others, after) := by
  rw [members, readKey]
  simp only [read, parted, readMore]
  rfl

/-- No closing bracket begins an item. -/
theorem value_array {steps : Nat} {text rest : List Char} {found : List Json}
    (read : items limit? steps (afterBlanks text) = .ok (found, rest)) :
    value limit? (steps + 1) ('[' :: text) = .ok (.array found, rest) := by
  rw [value]
  split
  · rename_i more isEmpty
    rw [isEmpty] at read
    cases steps with
    | zero => cases read
    | succ steps =>
      rw [items] at read
      split at read
      · cases read
      · rename_i readFirst
        rcases head_of_value readFirst with ⟨first, others, same, _, noEnd, _⟩
        exact absurd (List.cons.inj same).1.symm noEnd
  · rw [read]
    rfl

/-- No closing brace begins a member. -/
theorem value_object {steps : Nat} {text rest : List Char} {found : List (List CodePoint × Json)}
    (read : members limit? steps (afterBlanks text) = .ok (found, rest)) :
    value limit? (steps + 1) ('\x7b' :: text) = .ok (.object (Keyed.ofPairs found), rest) := by
  rw [value]
  split
  · rename_i more isEmpty
    rw [isEmpty] at read
    cases steps with
    | zero => cases read
    | succ steps =>
      rw [members] at read
      cases read
  · rw [read]
    rfl

theorem exists_of_map_eq_ok {Found Other : Type} (change : Found → Other)
    {read : Except Fault (Found × List Char)} {result : Other} {rest : List Char}
    (changed : (read.map fun (found, rest) => (change found, rest)) = .ok (result, rest)) :
    ∃ found, read = .ok (found, rest) ∧ change found = result := by
  cases read with
  | error fault => cases changed
  | ok found =>
    cases changed
    exact ⟨found.1, rfl, rfl⟩

end Schemagram.Json
