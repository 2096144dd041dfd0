import Schemagram.Text.CodePoint

/-!
# Letters regardless of case

Two views of a letter without its case.  `isSameLetter` compares a character of a keyword with a
character of a text.  `lower` maps a text to lower case, as far as the result can hold a letter of a
keyword.  They differ on the letters that share a case with a basic one: the Kelvin sign is a `k` to
both, while the long s and the two i's with and without a dot equal `s` and `i` only to the first.
-/

namespace Schemagram.Text

/-- A basic capital as a small letter; any other character as it is. -/
def small (char : Char) : Char :=
  if 'A' ≤ char && char ≤ 'Z' then Char.ofNat (char.toNat + 32) else char

/-- The letters outside the basic alphabet that share a case with a letter of it. -/
def caseRelative (char : Char) : Char :=
  if char = '\u212a' then 'k'
  else if char = '\u017f' then 's'
  else if char = '\u0130' || char = '\u0131' then 'i'
  else char

/-- Whether a character of a text is a character of a keyword, in whatever case. -/
def isSameLetter (keyword char : Char) : Bool :=
  small keyword = small char || small keyword = caseRelative char

/-- A character in lower case; the capital i with a dot becomes an i with a combining dot. -/
def lowerChar (char : Char) : List Char :=
  if char = '\u212a' then ['k']
  else if char = '\u0130' then ['i', '\u0307']
  else [small char]

def lower (text : List Char) : List Char := text.flatMap lowerChar

/-- Whether a text holds another one. -/
def contains (part : List Char) : List Char → Bool
  | [] => part.isEmpty
  | char :: rest => part.isPrefixOf (char :: rest) || contains part rest

/-- A letter in another case is a letter of the keyword all the same. -/
theorem isSameLetter_of_small_eq {keyword char : Char} (same : small char = small keyword) :
    isSameLetter keyword char = true := by
  simp [isSameLetter, same]

theorem small_of_not_capital {char : Char} (notCapital : ¬ ('A' ≤ char ∧ char ≤ 'Z')) :
    small char = char := by
  unfold small
  rw [if_neg (by simpa using notCapital)]

/-- A test that does not look at the case of basic letters accepts a letter with or without its
case. -/
theorem test_small {test : Char → Bool}
    (caseless : ∀ point ≤ 'Z'.toNat, 'A'.toNat ≤ point →
      test (small (Char.ofNat point)) = test (Char.ofNat point))
    (char : Char) : test (small char) = test char := by
  by_cases capital : 'A' ≤ char ∧ char ≤ 'Z'
  · have atChar := caseless char.toNat capital.2 capital.1
    rw [Char.ofNat_toNat] at atChar
    exact atChar
  · rw [small_of_not_capital capital]

theorem small_small (char : Char) : small (small char) = small char := by
  by_cases capital : 'A' ≤ char ∧ char ≤ 'Z'
  · have all : ∀ point ≤ 'Z'.toNat, 'A'.toNat ≤ point →
        small (small (Char.ofNat point)) = small (Char.ofNat point) := by decide
    have atChar := all char.toNat capital.2 capital.1
    rw [Char.ofNat_toNat] at atChar
    exact atChar
  · rw [small_of_not_capital capital, small_of_not_capital capital]

/-- Three basic letters share their case with a letter outside the basic alphabet; of every other
letter only the basic forms are the same. -/
theorem small_eq_of_isSameLetter {keyword char : Char} (basic : small keyword ∉ ['k', 's', 'i'])
    (same : isSameLetter keyword char = true) : small char = small keyword := by
  simp only [isSameLetter, Bool.or_eq_true, decide_eq_true_eq, caseRelative] at same
  rcases same with same | same
  · exact same.symm
  · split at same
    · simp [same] at basic
    · split at same
      · simp [same] at basic
      · split at same
        · simp [same] at basic
        · rw [← same, small_small]

end Schemagram.Text
