import Mathlib.Data.List.Induction
import Schemagram.Proofs.Json.Orderly

/-!
# Reading under a limit

A limit on digits changes nothing but that it may stop the reading.  Of a text that denotes a value,
reading gives the value or stops at an integer beyond the limit; it stops if the value itself holds
such an integer.  Without a limit it never stops so.

An integer that is read has as many digits as are written, since no zero stands in front.
-/

namespace Schemagram

namespace Decimal

/-! ### Digits that are read -/

theorem digitChar_digitValue {char : Char} (digit : isDigit char = true) :
    digitChar (digitValue char) = char ∧ digitValue char < 10 := by
  simp only [isDigit, Bool.and_eq_true, decide_eq_true_eq, Char.le_def] at digit
  have low : 48 ≤ char.toNat := digit.1
  have high : char.toNat ≤ 57 := digit.2
  have zero : '0'.toNat = 48 := rfl
  constructor
  · rw [digitChar, digitValue, zero, Nat.add_sub_cancel' low, Char.ofNat_toNat]
  · rw [digitValue, zero]
    omega

theorem ofDigits_append_singleton (text : List Char) (char : Char) :
    ofDigits (text ++ [char]) = 10 * ofDigits text + digitValue char := by
  simp [ofDigits]

theorem digits_append {value digit : Nat} (positive : value ≠ 0) (small : digit < 10) :
    digits (10 * value + digit) = digits value ++ [digitChar digit] := by
  rw [digits.eq_1 (10 * value + digit), if_neg (by omega)]
  congr 3 <;> omega

theorem eq_zero_of_ofDigits {text : List Char} (areDigits : ∀ char ∈ text, isDigit char = true)
    (zero : ofDigits text = 0) : ∀ char ∈ text, char = '0' := by
  induction text using List.reverseRecOn with
  | nil => exact List.forall_mem_nil _
  | append_singleton text char ih =>
    rw [ofDigits_append_singleton] at zero
    rw [List.forall_mem_append, List.forall_mem_singleton] at areDigits ⊢
    refine ⟨ih areDigits.1 (by omega), ?_⟩
    have same := (digitChar_digitValue areDigits.2).1
    rw [show digitValue char = 0 by omega] at same
    exact same.symm

/-- Writing undoes reading if no zero stands in front. -/
theorem digits_ofDigits {text : List Char} (areDigits : ∀ char ∈ text, isDigit char = true)
    (nonempty : text ≠ []) (leading : text.head? = some '0' → text = ['0']) :
    digits (ofDigits text) = text := by
  induction text using List.reverseRecOn with
  | nil => exact absurd rfl nonempty
  | append_singleton text char ih =>
    rw [List.forall_mem_append, List.forall_mem_singleton] at areDigits
    rcases digitChar_digitValue areDigits.2 with ⟨same, small⟩
    rw [ofDigits_append_singleton]
    cases text with
    | nil =>
      rw [digits, if_pos (by simpa [ofDigits] using small)]
      simpa [ofDigits] using same
    | cons first more =>
      have noZero : first ≠ '0' := by
        rintro rfl
        have alone := leading rfl
        simp at alone
      have positive : ofDigits (first :: more) ≠ 0 := fun zero =>
        noZero (eq_zero_of_ofDigits areDigits.1 zero first List.mem_cons_self)
      rw [digits_append positive small, same, ih areDigits.1 (List.cons_ne_nil _ _)]
      exact fun zero => absurd (Option.some.inj zero) noZero

end Decimal

namespace Json

open Text (CodePoint)

variable {limit? : Option Nat}

/-- An integer has as many digits as are written of it. -/
theorem digitCount_ofDigits {whole : List Char} (isWhole : IsWhole whole) :
    Decimal.digitCount (Decimal.ofDigits whole) = whole.length := by
  rw [Decimal.digitCount, Int.natAbs_natCast,
    Decimal.digits_ofDigits isWhole.1.2 isWhole.1.1 isWhole.2]

/-! ### Reading stops or goes on as without a limit -/

/-- Reading stops at an integer beyond the limit. -/
def Stops {Found : Type} (read : Except Fault Found) : Prop :=
  ∃ excess rest, read = .error ⟨.tooManyDigits excess, rest⟩

section

variable {Found Other : Type} {read unlimited : Except Fault Found}

theorem Stops.map (stops : Stops read) (change : Found → Other) : Stops (read.map change) := by
  rcases stops with ⟨excess, rest, rfl⟩
  exact ⟨excess, rest, rfl⟩

theorem eq_or_stops_map (change : Found → Other) (same : read = unlimited ∨ Stops read) :
    read.map change = unlimited.map change ∨ Stops (read.map change) :=
  same.imp (congrArg _) (·.map change)

end

theorem readExcess?_none (json : Json) : json.readExcess? none = none := by
  cases json <;> rfl

theorem scalar_eq_or_stops (text : List Char) : scalar limit? text = scalar none text ∨
    Stops (scalar limit? text) := by
  unfold scalar
  split
  · exact .inl rfl
  · split
    · rename_i found rest _
      rw [readExcess?_none]
      cases found.readExcess? limit? with
      | none => exact .inl rfl
      | some excess => exact .inr ⟨excess, text, rfl⟩
    · exact .inl rfl

theorem eq_or_stops (limit? : Option Nat) (steps : Nat) :
    (∀ text, value limit? steps text = value none steps text ∨ Stops (value limit? steps text)) ∧
    (∀ text, items limit? steps text = items none steps text ∨ Stops (items limit? steps text)) ∧
    ∀ text, members limit? steps text = members none steps text ∨
    Stops (members limit? steps text) := by
  induction steps with
  | zero =>
    refine ⟨fun text => .inl ?_, fun text => .inl ?_, fun text => .inl ?_⟩
    · rw [value, value]
    · rw [items, items]
    · rw [members, members]
  | succ steps ih =>
    rcases ih with ⟨ofValue, ofItems, ofMembers⟩
    refine ⟨fun text => ?_, fun text => ?_, fun text => ?_⟩
    · unfold value
      split
      · exact .inl rfl
      · split
        · exact .inl rfl
        · exact eq_or_stops_map _ (ofItems _)
      · split
        · exact .inl rfl
        · exact eq_or_stops_map _ (ofMembers _)
      · exact scalar_eq_or_stops text
    · unfold items
      rcases ofValue text with same | ⟨excess, rest, stops⟩
      · rw [same]
        split
        · exact .inl rfl
        · split
          · exact .inl rfl
          · exact eq_or_stops_map _ (ofItems _)
          · exact .inl rfl
      · rw [stops]
        exact .inr ⟨excess, rest, rfl⟩
    · unfold members
      split
      · exact .inl rfl
      · rename_i key behind _
        rcases ofValue behind with same | ⟨excess, rest, stops⟩
        · rw [same]
          split
          · exact .inl rfl
          · split
            · exact .inl rfl
            · exact eq_or_stops_map _ (ofMembers _)
            · exact .inl rfl
        · rw [stops]
          exact .inr ⟨excess, rest, rfl⟩

theorem parse_eq_or_stops (limit? : Option Nat) (text : List Char) :
    parse limit? text = parse none text ∨ Stops (parse limit? text) := by
  unfold parse
  split
  · exact .inl rfl
  · rcases (eq_or_stops limit? _).1 (afterBlanks text) with same | ⟨excess, rest, stops⟩
    · rw [same]
      exact .inl rfl
    · rw [stops]
      exact .inr ⟨excess, rest, rfl⟩

/-! ### Nothing stops without a limit -/

/-- No excess of digits stops the reading. -/
def NeverStops {Found : Type} (read : Except Fault Found) : Prop :=
  ∀ fault, read = .error fault → fault.reason.excess? = none

section

variable {Found Other : Type} {read : Except Fault Found}

theorem neverStops_ok (found : Found) : NeverStops (.ok found) := by
  rintro fault ⟨⟩

theorem neverStops_error {reason : Reason} (noExcess : reason.excess? = none) (rest : List Char) :
    NeverStops (.error ⟨reason, rest⟩ : Except Fault Found) := by
  rintro fault ⟨⟩
  exact noExcess

theorem NeverStops.map (goesOn : NeverStops read) (change : Found → Other) :
    NeverStops (read.map change) := by
  cases read with
  | error fault =>
    rintro other ⟨⟩
    exact goesOn _ rfl
  | ok found => exact neverStops_ok _

theorem NeverStops.of_error {fault : Fault} (goesOn : NeverStops read)
    (failed : read = .error fault) :
    NeverStops (.error fault : Except Fault Other) := by
  rintro other ⟨⟩
  exact goesOn _ failed

end

theorem neverStops_units (opening text : List Char) : NeverStops (units opening text) := by
  fun_induction units opening text with
  | case1 => exact neverStops_error rfl _
  | case2 => exact neverStops_ok _
  | case3 => exact neverStops_error rfl _
  | case4 => exact neverStops_error rfl _
  | case5 _ _ _ _ _ _ _ _ ih => exact ih.map _
  | case6 => exact neverStops_error rfl _
  | case7 => exact neverStops_error rfl _
  | case8 _ _ _ _ _ _ ih => exact ih.map _
  | case9 => exact neverStops_error rfl _
  | case10 _ _ _ _ _ ih => exact ih.map _

theorem neverStops_readString (text : List Char) : NeverStops (readString text) :=
  (neverStops_units _ text).map _

theorem neverStops_scalar (text : List Char) : NeverStops (scalar none text) := by
  unfold scalar
  split
  · exact neverStops_ok _
  · split
    · rw [readExcess?_none]
      exact neverStops_ok _
    · exact neverStops_error rfl _

theorem neverStops_memberKey (text : List Char) : NeverStops (memberKey text) := by
  unfold memberKey
  split
  · rename_i rest
    cases isRead : readString rest with
    | error fault => exact (neverStops_readString rest).of_error isRead
    | ok found =>
      simp only [bind, Except.bind]
      split
      · exact neverStops_ok _
      · exact neverStops_error rfl _
  · exact neverStops_error rfl _

theorem neverStops (steps : Nat) :
    (∀ text, NeverStops (value none steps text)) ∧ (∀ text, NeverStops (items none steps text)) ∧
      ∀ text, NeverStops (members none steps text) := by
  induction steps with
  | zero =>
    refine ⟨fun text => ?_, fun text => ?_, fun text => ?_⟩
    · rw [value]
      exact neverStops_error rfl _
    · rw [items]
      exact neverStops_error rfl _
    · rw [members]
      exact neverStops_error rfl _
  | succ steps ih =>
    rcases ih with ⟨ofValue, ofItems, ofMembers⟩
    refine ⟨fun text => ?_, fun text => ?_, fun text => ?_⟩
    · unfold value
      split
      · exact (neverStops_readString _).map _
      · split
        · exact neverStops_ok _
        · exact (ofItems _).map _
      · split
        · exact neverStops_ok _
        · exact (ofMembers _).map _
      · exact neverStops_scalar text
    · unfold items
      split
      · rename_i failed
        exact (ofValue text).of_error failed
      · split
        · exact neverStops_ok _
        · exact (ofItems _).map _
        · exact neverStops_error rfl _
    · unfold members
      split
      · rename_i failed
        exact (neverStops_memberKey text).of_error failed
      · rename_i behind _
        split
        · rename_i failed
          exact (ofValue behind).of_error failed
        · split
          · exact neverStops_ok _
          · exact (ofMembers _).map _
          · exact neverStops_error rfl _

theorem neverStops_parse (text : List Char) : NeverStops (parse none text) := by
  unfold parse
  split
  · exact neverStops_error rfl _
  · split
    · rename_i failed
      exact ((neverStops _).1 _).of_error failed
    · split
      · exact neverStops_ok _
      · exact neverStops_error rfl _

/-! ### Texts of values -/

/-- What denotes a value under a limit does so without it. -/
theorem Denotes.unlimited {text : List Char} {json : Json} (denotes : Denotes limit? text json) :
    Denotes none text json := by
  induction denotes with
  | word mem => exact .word mem
  | number isNumber _ =>
    exact .number isNumber (isNumber.readExcess?_eq_none_iff.1 (readExcess?_none _))
  | string isString => exact .string isString
  | emptyArray blank => exact .emptyArray blank
  | array nonempty _ ih => exact .array nonempty ih
  | emptyObject blank => exact .emptyObject blank
  | object nonempty named _ ih => exact .object nonempty named ih

theorem IsTextOf.unlimited {text : List Char} {json : Json} (isText : IsTextOf limit? text json) :
    IsTextOf none text json := by
  rcases isText with ⟨item, denotes, written, same⟩
  exact ⟨item, denotes.unlimited, written, same⟩

/-- A text that denotes a value but for the limit stops the reading. -/
theorem stops_of_not_isTextOf {text : List Char} {json : Json} (isText : IsTextOf none text json)
    (beyond : ¬IsTextOf limit? text json) : Stops (parse limit? text) := by
  rcases parse_eq_or_stops limit? text with same | stops
  · rw [parse_of_isTextOf isText] at same
    exact absurd (isTextOf_of_parse same) beyond
  · exact stops

/-- Under a limit no text denotes a value that holds an integer beyond it. -/
theorem fits_of_isTextOf {text : List Char} {json : Json} (isText : IsTextOf limit? text json) :
    json.fits limit? = true := (orderly_of_parse (parse_of_isTextOf isText)).fits

end Json

end Schemagram
