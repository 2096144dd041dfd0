/-!
# Code points and ranges of them

A code point is a number below `0x110000`.  Characters are the code points that are no surrogate;
text that comes out of an escape may hold surrogates too, so it is kept as a list of code points.

Character classes are tables of closed ranges in rising order. `covers_iff` says that searching such
a table answers membership in one of its ranges.
-/

namespace Schemagram.Text

/-- A Unicode code point, surrogates included. -/
abbrev CodePoint := Fin 0x110000

def CodePoint.ofChar (char : Char) : CodePoint :=
  ⟨char.toNat, by
    have valid := char.valid
    simp only [UInt32.isValidChar, Nat.isValidChar] at valid
    simp only [Char.toNat]
    omega⟩

/-- The character of a code point that is no surrogate. -/
def CodePoint.toChar? (point : CodePoint) : Option Char :=
  if valid : point.val.isValidChar then some (Char.ofNatAux point.val valid) else none

theorem CodePoint.toChar?_ofChar (char : Char) : (ofChar char).toChar? = some char := by
  have valid : (ofChar char).val.isValidChar := char.valid
  exact dif_pos valid

/-- The code points of a text. -/
def points (text : String) : List CodePoint := text.toList.map CodePoint.ofChar

/-- What holds of every character of a list is decided by going through the list. -/
instance decidableForallMem (chars : List Char) (holds : Char → Prop) [DecidablePred holds] :
    Decidable (∀ char ∈ chars, holds char) := List.decidableBAll holds chars

/-- Whether a code point lies in one of the ranges, which are listed in rising order. -/
def covers : List (Nat × Nat) → Nat → Bool
  | [], _ => false
  | (low, high) :: more, point =>
    if point < low then false else if point ≤ high then true else covers more point

/-- The ranges are closed, disjoint and in rising order, all of them at or above a bound. -/
def Rising : Nat → List (Nat × Nat) → Prop
  | _, [] => True
  | bound, (low, high) :: more => bound ≤ low ∧ low ≤ high ∧ Rising (high + 1) more

/-- A table is searched up to the first range that starts later, and no later range is missed. -/
theorem covers_iff {bound : Nat} {ranges : List (Nat × Nat)} (rising : Rising bound ranges)
    {point : Nat} :
    covers ranges point = true ↔ ∃ range ∈ ranges, range.1 ≤ point ∧ point ≤ range.2 := by
  induction ranges generalizing bound with
  | nil => simp [covers]
  | cons head more ih =>
    rcases head with ⟨low, high⟩
    rcases rising with ⟨_, lowHigh, moreRising⟩
    have above : ∀ {bound : Nat} {ranges : List (Nat × Nat)}, Rising bound ranges →
        ∀ range ∈ ranges, bound ≤ range.1 := by
      intro bound ranges
      induction ranges generalizing bound with
      | nil => simp
      | cons first rest ihRest =>
        intro risingRest range mem
        rcases risingRest with ⟨h1, h2, h3⟩
        rcases List.mem_cons.mp mem with rfl | mem
        · exact h1
        · have := ihRest h3 range mem
          omega
    unfold covers
    by_cases before : point < low
    · simp only [before, if_true, Bool.false_eq_true, false_iff, not_exists, not_and]
      intro range mem lowLe
      rcases List.mem_cons.mp mem with rfl | mem
      · simp at lowLe; omega
      · have := above moreRising range mem
        omega
    · by_cases inside : point ≤ high
      · simp only [before, inside, if_true, if_false, true_iff]
        exact ⟨(low, high), by simp, by simp; omega, by simpa using inside⟩
      · simp only [before, inside, if_false, ih moreRising, List.mem_cons, exists_eq_or_imp,
          false_or, and_false]

end Schemagram.Text
