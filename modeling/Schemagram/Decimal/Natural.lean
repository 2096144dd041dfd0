/-!
# Decimal digits of whole numbers

Whole numbers written in base ten, and read back. `ofDigits_digits` says that reading undoes
writing.
-/

namespace Schemagram.Decimal

def digitChar (digit : Nat) : Char := Char.ofNat ('0'.toNat + digit)

/-- Whether a character is one of the ten basic digits. -/
def isDigit (char : Char) : Bool := '0' ≤ char && char ≤ '9'

/-- The value of a basic digit. -/
def digitValue (char : Char) : Nat := char.toNat - '0'.toNat

/-- The digits of a natural number, the highest first. -/
def digits (value : Nat) : List Char :=
  if value < 10 then [digitChar value] else digits (value / 10) ++ [digitChar (value % 10)]
termination_by value

/-- The number that digits denote. -/
def ofDigits (text : List Char) : Nat :=
  text.foldl (fun value char => 10 * value + digitValue char) 0

/-- An integer with its sign if it is negative. -/
def integer : Int → List Char
  | .ofNat value => digits value
  | .negSucc value => '-' :: digits (value + 1)

def text (value : Nat) : String := String.ofList (digits value)

theorem digitValue_digitChar {digit : Nat} (small : digit < 10) :
    digitValue (digitChar digit) = digit := by
  have all : ∀ other < 10, digitValue (digitChar other) = other := by decide
  exact all digit small

theorem isDigit_digitChar {digit : Nat} (small : digit < 10) :
    isDigit (digitChar digit) = true := by
  have all : ∀ other < 10, isDigit (digitChar other) = true := by decide
  exact all digit small

theorem digits_zero : digits 0 = ['0'] := by
  unfold digits
  rfl

theorem digits_ne_nil (value : Nat) : digits value ≠ [] := by
  unfold digits
  split <;> simp

/-- Only zero is written with a zero in front. -/
theorem eq_zero_of_head?_digits {value : Nat} (leading : (digits value).head? = some '0') :
    value = 0 := by
  induction value using Nat.strongRecOn with
  | ind value ih =>
    unfold digits at leading
    split at leading
    · rename_i small
      have all : ∀ other < 10, digitChar other = '0' → other = 0 := by decide
      exact all value small (by simpa using leading)
    · rename_i large
      cases written : digits (value / 10) with
      | nil => exact absurd written (digits_ne_nil _)
      | cons first more =>
        rw [written, List.cons_append] at leading
        have noTens := ih (value / 10) (by omega) (by rw [written]; exact leading)
        omega

/-- Reading undoes writing. -/
theorem ofDigits_digits (value : Nat) : ofDigits (digits value) = value := by
  induction value using Nat.strongRecOn with
  | ind value ih =>
    unfold digits
    split
    · rename_i small
      simp [ofDigits, digitValue_digitChar small]
    · rename_i large
      have shorter := ih (value / 10) (by omega)
      simp only [ofDigits, List.foldl_append, List.foldl_cons, List.foldl_nil] at shorter ⊢
      rw [shorter, digitValue_digitChar (Nat.mod_lt _ (by omega))]
      omega

/-- Every character that is written is a digit. -/
theorem isDigit_of_mem_digits {value : Nat} {char : Char} (mem : char ∈ digits value) :
    isDigit char = true := by
  induction value using Nat.strongRecOn with
  | ind value ih =>
    unfold digits at mem
    split at mem
    · rename_i small
      simp only [List.mem_singleton] at mem
      exact mem ▸ isDigit_digitChar small
    · rename_i large
      rcases List.mem_append.mp mem with earlier | last
      · exact ih (value / 10) (by omega) earlier
      · simp only [List.mem_singleton] at last
        exact last ▸ isDigit_digitChar (Nat.mod_lt _ (by omega))

end Schemagram.Decimal
