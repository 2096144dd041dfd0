import Schemagram.Text.WordTable
import Schemagram.Text.PrintTable

/-!
# Character classes

The classes a schema description is read with: word characters, white space, decimal digits and
digits of every kind, and the characters that a quoted text shows as themselves.  Below 128 each
class is a rule; from 128 on it is a table.

`not_isSpace_of_isWord` says that no word character is white space, so that a run of one class ends
where a run of the other starts.
-/

namespace Schemagram.Text

/-- Letters and digits among the first 128 code points. -/
def isBasicAlphanumeric (char : Char) : Bool :=
  ('a' ≤ char && char ≤ 'z') || ('A' ≤ char && char ≤ 'Z') || ('0' ≤ char && char ≤ '9')

/-- Word characters: letters and numbers of every script, and the underscore. -/
def isWord (char : Char) : Bool :=
  if char.toNat < 128 then isBasicAlphanumeric char || char = '_' else covers wordRanges char.toNat

def spaceRanges : List (Nat × Nat) := [
  (0x85, 0x85), (0xA0, 0xA0), (0x1680, 0x1680), (0x2000, 0x200A), (0x2028, 0x2029),
  (0x202F, 0x202F), (0x205F, 0x205F), (0x3000, 0x3000)]

/-- White space: the blank, the controls from tab to carriage return, the four information
separators, and the spaces and line ends of Unicode. -/
def isSpace (char : Char) : Bool :=
  if char.toNat < 128 then
    char.toNat = 0x20 || (0x09 ≤ char.toNat && char.toNat ≤ 0x0D) ||
      (0x1C ≤ char.toNat && char.toNat ≤ 0x1F)
  else covers spaceRanges char.toNat

/-- Decimal digits of every script. -/
def isDecimal (char : Char) : Bool :=
  if char.toNat < 128 then '0' ≤ char && char ≤ '9' else covers decimalRanges char.toNat

/-- The value of a decimal digit of any script: its place in its run of ten. -/
def decimalValue? (char : Char) : Option Nat :=
  if char.toNat < 128 then if '0' ≤ char && char ≤ '9' then some (char.toNat - '0'.toNat) else none
  else (decimalRanges.find? fun (low, high) => low ≤ char.toNat && char.toNat ≤ high).map
    fun (low, _) => (char.toNat - low) % 10

/-- Digits of every kind, superscripts and circled digits included. -/
def isDigit (char : Char) : Bool :=
  if char.toNat < 128 then '0' ≤ char && char ≤ '9' else covers digitRanges char.toNat

/-- Whether a quoted text shows a code point as itself. -/
def isPrintable (point : Nat) : Bool :=
  if point < 128 then 0x20 ≤ point && point ≤ 0x7E else !covers unprintableRanges point

theorem covers_spaceRanges {point : Nat} :
    covers spaceRanges point = true ↔ ∃ range ∈ spaceRanges, range.1 ≤ point ∧ point ≤ range.2 := by
  have rising : Rising 0 spaceRanges := by simp [spaceRanges, Rising]
  exact covers_iff rising

/-- A class that has no white space below 128 and covers none from there on has no white space at
all. -/
theorem not_isSpace_of_isInside {isBasic : Char → Bool} {ranges : List (Nat × Nat)}
    (noBasic : ∀ point < 128, isBasic (Char.ofNat point) = true →
      (point = 0x20 || (0x09 ≤ point && point ≤ 0x0D) || (0x1C ≤ point && point ≤ 0x1F)) = false)
    (disjoint : ∀ range ∈ spaceRanges, ∀ offset ≤ range.2 - range.1,
      covers ranges (range.1 + offset) = false)
    {char : Char} (inside : (if char.toNat < 128 then isBasic char else covers ranges char.toNat) =
      true) :
    isSpace char = false := by
  unfold isSpace
  by_cases basic : char.toNat < 128
  · rw [if_pos basic] at inside ⊢
    have atChar := noBasic char.toNat basic
    rw [Char.ofNat_toNat] at atChar
    exact atChar inside
  · rw [if_neg basic] at inside ⊢
    rw [← Bool.not_eq_true, covers_spaceRanges]
    rintro ⟨range, mem, low, high⟩
    have outside := disjoint range mem (char.toNat - range.1) (by omega)
    rw [Nat.add_sub_cancel' low, inside] at outside
    cases outside

/-- No word character is white space. -/
theorem not_isSpace_of_isWord {char : Char} (inWord : isWord char = true) : isSpace char = false :=
  @not_isSpace_of_isInside (fun char => isBasicAlphanumeric char || char = '_') wordRanges
    (by decide)
    (by decide +kernel) char inWord

/-- No decimal digit is white space. -/
theorem not_isSpace_of_isDecimal {char : Char} (inNumber : isDecimal char = true) :
    isSpace char = false :=
  @not_isSpace_of_isInside (fun char => '0' ≤ char && char ≤ '9') decimalRanges (by decide)
    (by decide +kernel) char inNumber

end Schemagram.Text
