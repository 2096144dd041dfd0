import Mathlib.Data.List.Chain
import Schemagram.Json.Parser
import Schemagram.Json.Printer

/-!
# Strings read back

Reading a string undoes writing it, when the string holds no two surrogates that would be read as a
pair.

Writing goes point by point, so one lemma says what reading makes of the form of a point; the form
of a point beyond four digits reads as two surrogates, which joining makes one point again.
-/

namespace Schemagram.Json

open Text (CodePoint hexDigits hexDigit hexValue?)

/-! ### Escapes -/

theorem hexDigits_four (unit : Nat) :
    hexDigits 4 unit = [hexDigit (unit / 16 / 16 / 16 % 16), hexDigit (unit / 16 / 16 % 16),
      hexDigit (unit / 16 % 16), hexDigit (unit % 16)] := by
  simp [hexDigits]

theorem unit?_hexDigits {unit : Nat} (small : unit < 0x10000) :
    unit? (hexDigit (unit / 16 / 16 / 16 % 16)) (hexDigit (unit / 16 / 16 % 16))
      (hexDigit (unit / 16 % 16)) (hexDigit (unit % 16)) = some ⟨unit, by omega⟩ := by
  have digit : ∀ value, hexValue? (hexDigit (value % 16)) = some (value % 16) := fun value =>
    Text.hexValue?_hexDigit (Nat.mod_lt value (by omega))
  have whole : ((unit / 16 / 16 / 16 % 16 * 16 + unit / 16 / 16 % 16) * 16 + unit / 16 % 16) * 16 +
      unit % 16 = unit := by omega
  simp only [unit?, digit, Option.bind_eq_bind, Option.bind_some, whole]
  rw [dif_pos (by omega : unit < 0x110000)]

theorem units_unitEscape (opening : List Char) {unit : Nat} (small : unit < 0x10000)
    {rest : List Char} (more : rest ≠ []) :
    units opening (unitEscape unit ++ rest) =
      (units opening rest).map fun (points, after) => (⟨unit, by omega⟩ :: points, after) := by
  cases rest with
  | nil => exact absurd rfl more
  | cons next rest =>
    rw [unitEscape, hexDigits_four]
    simp only [List.cons_append, List.nil_append, units, unit?_hexDigits small]

theorem lt_of_shortEscape? {point : Nat} {letter : Char}
    (short : shortEscape? point = some letter) :
    point < 0x5D := by
  apply Nat.lt_of_not_le
  intro large
  have other : shortEscape? point = none := by
    unfold shortEscape?
    repeat rw [if_neg (by omega)]
  rw [other] at short
  cases short

theorem escaped?_of_shortEscape? {point : CodePoint} {letter : Char}
    (short : shortEscape? point.val = some letter) :
    letter ≠ 'u' ∧ ∃ char, escaped? letter = some char ∧ CodePoint.ofChar char = point := by
  have all : ∀ value < 0x5D, (shortEscape? value).all (fun letter =>
      letter ≠ 'u' ∧ (escaped? letter).map Char.toNat = some value) = true := by decide
  have isEscaped := (Option.all_eq_true _ _).1 (all point.val (lt_of_shortEscape? short))
    letter short
  rcases of_decide_eq_true isEscaped with ⟨notUnit, isEscape⟩
  rcases Option.map_eq_some_iff.1 isEscape with ⟨char, isChar, same⟩
  exact ⟨notUnit, char, isChar, Fin.ext same⟩

theorem units_shortEscape (opening : List Char) {point : CodePoint} {letter : Char}
    (short : shortEscape? point.val = some letter) (rest : List Char) :
    units opening ('\\' :: letter :: rest) =
      (units opening rest).map fun (points, after) => (point :: points, after) := by
  rcases escaped?_of_shortEscape? short with ⟨notUnit, char, isChar, rfl⟩
  simp [units, notUnit, isChar]

theorem units_char (opening : List Char) {char : Char} (notQuote : char ≠ '"')
    (notBackslash : char ≠ '\\') (notControl : 0x20 ≤ char.toNat) (rest : List Char) :
    units opening (char :: rest) =
      (units opening rest).map fun (points, after) => (CodePoint.ofChar char :: points, after) := by
  have noControl : ¬ char.toNat < 0x20 := by omega
  simp [units, noControl]

/-! ### Points -/

/-- The first surrogate of a point beyond four digits. -/
def highUnit (point : CodePoint) : CodePoint := ⟨0xD800 + (point.val - 0x10000) / 0x400, by omega⟩

/-- The second surrogate of a point beyond four digits. -/
def lowUnit (point : CodePoint) : CodePoint := ⟨0xDC00 + (point.val - 0x10000) % 0x400, by omega⟩

/-- What reading makes of a written point, before pairs are joined. -/
def unitsOf (point : CodePoint) : List CodePoint :=
  if point.val < 0x10000 then [point] else [highUnit point, lowUnit point]

theorem units_pointEscape (opening : List Char) (point : CodePoint) {rest : List Char}
    (more : rest ≠ []) :
    units opening (pointEscape point.val ++ rest) =
      (units opening rest).map fun (points, after) => (unitsOf point ++ points, after) := by
  unfold pointEscape unitsOf
  by_cases small : point.val < 0x10000
  · rw [if_pos small, if_pos small]
    exact units_unitEscape opening small more
  · have isPoint := point.isLt
    rw [if_neg small, if_neg small, List.append_assoc,
      units_unitEscape opening (by omega) (by simp [unitEscape]),
      units_unitEscape opening (by omega) more]
    cases units opening rest with
    | error fault => rfl
    | ok read => rfl

/-- Every point is read as it was written, whatever its form is. -/
theorem units_stringPoint (opening : List Char) (point : CodePoint) {rest : List Char}
    (more : rest ≠ []) :
    units opening (stringPoint point ++ rest) =
      (units opening rest).map fun (points, after) => (unitsOf point ++ points, after) := by
  unfold stringPoint
  split
  · rename_i letter short
    have small := lt_of_shortEscape? short
    rw [unitsOf, if_pos (by omega)]
    exact units_shortEscape opening short rest
  · rename_i noShort
    split
    · rename_i printable
      rw [Bool.and_eq_true, decide_eq_true_eq, decide_eq_true_eq] at printable
      have all : ∀ value ≤ 0x7E, (Char.ofNat value).toNat = value := by decide
      have isPoint := all point.val printable.2
      have notQuote : Char.ofNat point.val ≠ '"' := by
        intro isQuote
        rw [isQuote] at isPoint
        rw [← isPoint] at noShort
        cases noShort
      have notBackslash : Char.ofNat point.val ≠ '\\' := by
        intro isBackslash
        rw [isBackslash] at isPoint
        rw [← isPoint] at noShort
        cases noShort
      have same : CodePoint.ofChar (Char.ofNat point.val) = point := Fin.ext isPoint
      rw [unitsOf, if_pos (by omega), List.singleton_append,
        units_char opening notQuote notBackslash (by omega), same]
      rfl
    · exact units_pointEscape opening point more

theorem units_flatMap (opening : List Char) (text : List CodePoint) (rest : List Char) :
    units opening (text.flatMap stringPoint ++ '"' :: rest) = .ok (text.flatMap unitsOf, rest) := by
  induction text with
  | nil => simp [units]
  | cons point text ih =>
    rw [List.flatMap_cons, List.append_assoc, units_stringPoint opening point (by simp), ih]
    rfl

/-! ### Pairs -/

/-- No two surrogates of a text would be read as a pair. -/
def Joined (text : List CodePoint) : Prop := text.IsChain fun high low => pair? high low = none

theorem pair?_of_not_low {high low : CodePoint} (notLow : low.val < 0xDC00 ∨ 0xDFFF < low.val) :
    pair? high low = none := by
  unfold pair?
  rw [dif_neg]
  intro inside
  have isLow := inside.2
  omega

theorem joinPairs_cons {point : CodePoint} {text : List CodePoint}
    (noPair : ∀ low ∈ text.head?, pair? point low = none) :
    joinPairs (point :: text) = point :: joinPairs text := by
  cases text with
  | nil => rfl
  | cons low rest => simp [joinPairs, noPair low rfl]

theorem pair?_eq_some {high low point : CodePoint} (isHigh : 0xD800 ≤ high.val ∧ high.val ≤ 0xDBFF)
    (isLow : 0xDC00 ≤ low.val ∧ low.val ≤ 0xDFFF)
    (isPoint : 0x10000 + (high.val - 0xD800) * 0x400 + (low.val - 0xDC00) = point.val) :
    pair? high low = some point := by
  unfold pair?
  rw [dif_pos ⟨isHigh, isLow⟩, Option.some.injEq]
  exact Fin.ext isPoint

theorem pair?_units {point : CodePoint} (large : ¬ point.val < 0x10000) :
    pair? (highUnit point) (lowUnit point) = some point := by
  have isPoint := point.isLt
  apply pair?_eq_some <;> simp only [highUnit, lowUnit] <;> omega

theorem joinPairs_unitsOf {point : CodePoint} {text : List CodePoint}
    (noPair : ∀ low ∈ text.head?, pair? point low = none) :
    joinPairs (unitsOf point ++ text) = point :: joinPairs text := by
  unfold unitsOf
  split
  · exact joinPairs_cons noPair
  · rename_i large
    rw [List.cons_append, List.cons_append, List.nil_append, joinPairs, pair?_units large]

/-- The first unit of a text forms a pair with what stands before it only if its first point
does. -/
theorem head?_flatMap_unitsOf {high : CodePoint} {text : List CodePoint}
    (noPair : ∀ low ∈ text.head?, pair? high low = none) :
    ∀ unit ∈ (text.flatMap unitsOf).head?, pair? high unit = none := by
  intro unit mem
  cases text with
  | nil => simp at mem
  | cons point text =>
    by_cases small : point.val < 0x10000
    · simp only [List.flatMap_cons, unitsOf, if_pos small, List.singleton_append, List.head?_cons,
        Option.mem_some_iff] at mem
      rw [← mem]
      exact noPair point rfl
    · simp only [List.flatMap_cons, unitsOf, if_neg small, List.cons_append, List.head?_cons,
        Option.mem_some_iff] at mem
      have isPoint := point.isLt
      rw [← mem]
      apply pair?_of_not_low
      simp only [highUnit]
      omega

theorem joinPairs_flatMap {text : List CodePoint} (joined : Joined text) :
    joinPairs (text.flatMap unitsOf) = text := by
  induction text with
  | nil => rfl
  | cons point text ih =>
    rcases List.isChain_cons.1 joined with ⟨noPair, more⟩
    rw [List.flatMap_cons, joinPairs_unitsOf (head?_flatMap_unitsOf noPair), ih more]

theorem readString_printed {text : List CodePoint} (joined : Joined text) (rest : List Char) :
    readString (text.flatMap stringPoint ++ '"' :: rest) = .ok (text, rest) := by
  rw [readString, units_flatMap]
  simp only [Except.map, joinPairs_flatMap joined]

/-- Text of characters holds no surrogate. -/
theorem joined_points (text : String) : Joined (points text) := by
  unfold Joined points
  induction text.toList with
  | nil => exact .nil
  | cons char rest ih =>
    rw [List.map_cons, List.isChain_cons]
    refine ⟨?_, ih⟩
    intro low mem
    rcases List.mem_map.1 (List.mem_of_mem_head? mem) with ⟨other, _, rfl⟩
    apply pair?_of_not_low
    have valid := other.valid
    simp only [UInt32.isValidChar, Nat.isValidChar] at valid
    simp only [CodePoint.ofChar, Char.toNat]
    omega

end Schemagram.Json
