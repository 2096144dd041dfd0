import Schemagram.Proofs.Json.Reading

/-!
# Strings, numbers and words as they are written

The notation says how a string or a number may be written, without saying how it is read.  Reading
takes such a text off what follows, and takes nothing else for one.  A number is taken as far as it
goes, so what follows must not go on with it.
-/

namespace Schemagram.Json

open Text (CodePoint Ends ends_cons ends_nil takeWhile_run dropWhile_run)

/-! ### Strings -/

/-- A unit of a string is written as itself, as a letter behind a backslash, or as four hexadecimal
digits. -/
inductive WritesUnit : List Char → CodePoint → Prop where
  | plain {char : Char} (notQuote : char ≠ '"') (notBackslash : char ≠ '\\')
    (notControl : 0x20 ≤ char.toNat) :
    WritesUnit [char] (.ofChar char)
  | letter {letter char : Char} (isEscape : escaped? letter = some char) :
    WritesUnit ['\\', letter] (.ofChar char)
  | digits {first second third fourth : Char} {unit : CodePoint}
    (isUnit : unit? first second third fourth = some unit) :
    WritesUnit ['\\', 'u', first, second, third, fourth] unit

inductive WritesUnits : List Char → List CodePoint → Prop where
  | nil : WritesUnits [] []
  | cons {written more : List Char} {unit : CodePoint} {units : List CodePoint}
    (isUnit : WritesUnit written unit)
    (areUnits : WritesUnits more units) : WritesUnits (written ++ more) (unit :: units)

/-- Units that name the two halves of a pair, one after the other, are the point of the pair. -/
inductive WritesString : List Char → List CodePoint → Prop where
  | quoted {inside : List Char} {units : List CodePoint} (areUnits : WritesUnits inside units) :
    WritesString ('"' :: (inside ++ ['"'])) (joinPairs units)

theorem units_unit (opening : List Char) {written rest : List Char} {unit : CodePoint}
    (isUnit : WritesUnit written unit) (more : rest ≠ []) :
    units opening (written ++ rest) =
      (units opening rest).map fun (points, after) => (unit :: points, after) := by
  cases isUnit with
  | plain notQuote notBackslash notControl =>
    exact units_char opening notQuote notBackslash notControl rest
  | @letter letter char isEscape =>
    have notUnit : letter ≠ 'u' := by
      rintro rfl
      cases isEscape
    simp [units, notUnit, isEscape]
  | digits isUnit =>
    cases rest with
    | nil => exact absurd rfl more
    | cons next rest => simp [units, isUnit]

theorem units_units (opening : List Char) {inside : List Char} {found : List CodePoint}
    (areUnits : WritesUnits inside found) (rest : List Char) :
    units opening (inside ++ '"' :: rest) = .ok (found, rest) := by
  induction areUnits with
  | nil => simp [units]
  | cons isUnit _ ih =>
    rw [List.append_assoc, units_unit opening isUnit (by simp), ih]
    rfl

section

variable {opening text rest : List Char} {found : List CodePoint}

theorem writesUnits_of_unit {written : List Char} {unit : CodePoint}
    (isUnit : WritesUnit written unit) (ofMore : ∀ {more}, units opening text = .ok (more, rest) →
      ∃ inside, WritesUnits inside more ∧ text = inside ++ '"' :: rest)
    (read : ((units opening text).map fun (more, after) => (unit :: more, after)) =
      .ok (found, rest)) :
    ∃ inside, WritesUnits inside found ∧ written ++ text = inside ++ '"' :: rest := by
  rcases exists_of_map_eq_ok (unit :: ·) read with ⟨more, readMore, rfl⟩
  rcases ofMore readMore with ⟨inside, areUnits, rfl⟩
  exact ⟨written ++ inside, .cons isUnit areUnits, by rw [List.append_assoc]⟩

theorem writesUnits_of_units (read : units opening text = .ok (found, rest)) :
    ∃ inside, WritesUnits inside found ∧ text = inside ++ '"' :: rest := by
  fun_induction units opening text generalizing found with
  | case1 => cases read
  | case2 rest =>
    cases read
    exact ⟨[], .nil, rfl⟩
  | case3 => cases read
  | case4 => cases read
  | case5 first second third fourth next rest unit isUnit ih =>
    exact writesUnits_of_unit (.digits isUnit) ih read
  | case6 => cases read
  | case7 => cases read
  | case8 letter rest _ _ char isEscape ih => exact writesUnits_of_unit (.letter isEscape) ih read
  | case9 => cases read
  | case10 char rest notQuote notBackslash notControl ih =>
    refine writesUnits_of_unit (.plain ?_ ?_ (Nat.le_of_not_lt notControl)) ih read
    · exact fun isQuote => notQuote isQuote
    · exact fun isBackslash => notBackslash isBackslash

end

theorem readString_string {text : List Char} {points : List CodePoint}
    (isString : WritesString text points) (rest : List Char) :
    ∃ inside, text ++ rest = '"' :: inside ∧
    readString inside = .ok (points, rest) := by
  cases isString with
  | @quoted inside units areUnits =>
    refine ⟨inside ++ '"' :: rest, by simp, ?_⟩
    rw [readString, units_units _ areUnits]
    rfl

theorem writesString_of_readString {text rest : List Char} {points : List CodePoint}
    (read : readString text = .ok (points, rest)) :
    ∃ written, WritesString written points ∧ '"' :: text = written ++ rest := by
  rcases exists_of_map_eq_ok joinPairs read with ⟨found, readUnits, rfl⟩
  rcases writesUnits_of_units readUnits with ⟨inside, areUnits, rfl⟩
  exact ⟨_, .quoted areUnits, by simp⟩

/-! ### Numbers -/

def AreDigits (text : List Char) : Prop := text ≠ [] ∧ ∀ char ∈ text, Decimal.isDigit char = true

inductive WritesSign : List Char → Bool → Prop where
  | none : WritesSign [] false
  | minus : WritesSign ['-'] true

/-- The whole part of a number begins with a zero only if it is a zero. -/
def IsWhole (whole : List Char) : Prop := AreDigits whole ∧ (whole.head? = some '0' → whole = ['0'])

inductive WritesFraction : List Char → List Char → Prop where
  | none : WritesFraction [] []
  | digits {digits : List Char} (areDigits : AreDigits digits) :
    WritesFraction ('.' :: digits) digits

inductive WritesExponent : List Char → Option Int → Prop where
  | none : WritesExponent [] none
  | bare {letter : Char} {digits : List Char} (isLetter : letter ∈ ['e', 'E'])
    (areDigits : AreDigits digits) :
    WritesExponent (letter :: digits) (some (Decimal.ofDigits digits))
  | plus {letter : Char} {digits : List Char} (isLetter : letter ∈ ['e', 'E'])
    (areDigits : AreDigits digits) :
    WritesExponent (letter :: '+' :: digits) (some (Decimal.ofDigits digits))
  | minus {letter : Char} {digits : List Char} (isLetter : letter ∈ ['e', 'E'])
    (areDigits : AreDigits digits) :
    WritesExponent (letter :: '-' :: digits) (some (-Decimal.ofDigits digits))

/-- A number without a fraction and an exponent is an integer, and any other one is a double. -/
def numeral (isNegative : Bool) (whole fraction : List Char) : Option Int → Json
  | none =>
    if fraction = [] then .integer
      (if isNegative then -Decimal.ofDigits whole else Decimal.ofDigits whole)
    else .double (.ofDecimal isNegative (Decimal.ofDigits (whole ++ fraction)) (-fraction.length))
  | some exponent =>
    .double (.ofDecimal isNegative (Decimal.ofDigits (whole ++ fraction))
      (exponent - fraction.length))

inductive WritesNumber : List Char → Json → Prop where
  | parts {sign whole point power fraction : List Char} {isNegative : Bool} {exponent? : Option Int}
    (isSign : WritesSign sign isNegative) (isWhole : IsWhole whole)
      (isFraction : WritesFraction point fraction)
    (isExponent : WritesExponent power exponent?) :
    WritesNumber (sign ++ (whole ++ (point ++ power))) (numeral isNegative whole fraction exponent?)

theorem takeSign_sign {sign rest : List Char} {isNegative : Bool}
    (isSign : WritesSign sign isNegative) (noMinus : rest.head? ≠ some '-') :
    takeSign (sign ++ rest) = (isNegative, rest) := by
  cases isSign with
  | none =>
    rw [List.nil_append]
    unfold takeSign
    split
    · exact absurd rfl noMinus
    · rfl
  | minus => rfl

theorem whole?_whole {whole rest : List Char} (isWhole : IsWhole whole)
    (ends : Ends Decimal.isDigit rest) :
    whole? (whole ++ rest) = some (whole, rest) := by
  rcases isWhole with ⟨⟨nonempty, areDigits⟩, isZero⟩
  cases whole with
  | nil => exact absurd rfl nonempty
  | cons first more =>
    rw [List.cons_append, whole?]
    by_cases zero : first = '0'
    · have alone : more = [] := (List.cons.inj (isZero (congrArg some zero))).2
      rw [if_pos zero, alone]
      rfl
    · have areMore : ∀ char ∈ more, Decimal.isDigit char = true := fun char mem =>
        areDigits char (List.mem_cons_of_mem first mem)
      rw [if_neg zero, if_pos (areDigits first List.mem_cons_self), takeWhile_run areMore ends,
        dropWhile_run areMore ends]

theorem fraction?_fraction {point fraction rest : List Char}
    (isFraction : WritesFraction point fraction) (ends : Ends Decimal.isDigit rest)
    (noPoint : rest.head? ≠ some '.') :
    (fraction? (point ++ rest)).getD ([], point ++ rest) = (fraction, rest) := by
  cases isFraction with
  | none =>
    rw [List.nil_append]
    unfold fraction?
    split
    · exact absurd rfl noPoint
    · rfl
  | digits areDigits =>
    rcases List.exists_cons_of_ne_nil areDigits.1 with ⟨first, more, rfl⟩
    rw [List.cons_append, fraction?, takeWhile_run areDigits.2 ends, dropWhile_run areDigits.2 ends]
    rfl

theorem exponent?_exponent {power rest : List Char} {found? : Option Int}
    (isExponent : WritesExponent power found?) (ends : EndsNumber rest) :
    exponent? (power ++ rest) = found?.map fun exponent =>
    (exponent, rest) := by
  have isLetter {letter : Char} (mem : letter ∈ ['e', 'E']) :
      (letter = 'e' || letter = 'E') = true := by
    simpa using mem
  cases isExponent with
  | none => exact exponent?_of_ends ends
  | bare mem areDigits =>
    rcases List.exists_cons_of_ne_nil areDigits.1 with ⟨first, more, rfl⟩
    have isFirst := areDigits.2 first List.mem_cons_self
    have noMinus : first ≠ '-' := by
      rintro rfl
      cases isFirst
    have noPlus : first ≠ '+' := by
      rintro rfl
      cases isFirst
    have taken := takeWhile_run areDigits.2 ends.digit
    have dropped := dropWhile_run areDigits.2 ends.digit
    rw [List.cons_append] at taken dropped
    simp [exponent?, isLetter mem, noMinus, noPlus, taken, dropped]
  | plus mem areDigits =>
    rcases List.exists_cons_of_ne_nil areDigits.1 with ⟨first, more, rfl⟩
    rw [List.cons_append, List.cons_append, exponent?, if_pos (isLetter mem)]
    dsimp only
    rw [takeWhile_run areDigits.2 ends.digit, dropWhile_run areDigits.2 ends.digit]
    rfl
  | minus mem areDigits =>
    rcases List.exists_cons_of_ne_nil areDigits.1 with ⟨first, more, rfl⟩
    rw [List.cons_append, List.cons_append, exponent?, if_pos (isLetter mem)]
    dsimp only
    rw [takeWhile_run areDigits.2 ends.digit, dropWhile_run areDigits.2 ends.digit]
    rfl

/-- An exponent or the end of a number begins with no digit and no point. -/
theorem ends_exponent {power rest : List Char} {found? : Option Int}
    (isExponent : WritesExponent power found?) (ends : EndsNumber rest) :
    Ends Decimal.isDigit (power ++ rest) ∧ (power ++ rest).head? ≠ some '.' := by
  have letter {letter : Char} {more : List Char} (mem : letter ∈ ['e', 'E']) :
      Ends Decimal.isDigit (letter :: more) ∧ (letter :: more).head? ≠ some '.' := by
    rcases List.mem_pair.1 mem with rfl | rfl <;> simp [Decimal.isDigit]
  cases isExponent with
  | none =>
    refine ⟨ends.digit, fun isPoint => ?_⟩
    cases ends '.' isPoint
  | bare mem _ => exact letter mem
  | plus mem _ => exact letter mem
  | minus mem _ => exact letter mem

theorem ends_fraction {point fraction rest : List Char} (isFraction : WritesFraction point fraction)
    (ends : Ends Decimal.isDigit rest) : Ends Decimal.isDigit (point ++ rest) := by
  cases isFraction with
  | none => exact ends
  | digits _ => exact ends_cons.2 (by decide)

theorem head?_whole {whole : List Char} (isWhole : IsWhole whole) (rest : List Char) :
    ∃ first ∈ (whole ++ rest).head?, Decimal.isDigit first = true := by
  cases whole with
  | nil => exact absurd rfl isWhole.1.1
  | cons first more => exact ⟨first, rfl, isWhole.1.2 first List.mem_cons_self⟩

theorem number?_number {text rest : List Char} {json : Json} (isNumber : WritesNumber text json)
    (ends : EndsNumber rest) : number? (text ++ rest) = some (json, rest) := by
  cases isNumber with
  | @parts sign whole point power fraction isNegative found? isSign isWhole isFraction isExponent =>
    have endsPower := ends_exponent isExponent ends
    have noMinus : (whole ++ (point ++ (power ++ rest))).head? ≠ some '-' := by
      intro isMinus
      rcases head?_whole isWhole (point ++ (power ++ rest)) with ⟨first, isFirst, isDigit⟩
      rw [Option.mem_def, isMinus] at isFirst
      cases isFirst
      cases isDigit
    have readSign := takeSign_sign isSign noMinus
    have readWhole := whole?_whole isWhole (ends_fraction isFraction endsPower.1)
    have readFraction := fraction?_fraction isFraction endsPower.1 endsPower.2
    have readExponent := exponent?_exponent isExponent ends
    simp only [List.append_assoc, number?, readSign, readWhole, readFraction, readExponent,
      Option.bind_eq_bind, Option.bind_some]
    cases isExponent with
    | none =>
      by_cases noFraction : fraction = []
      · simp [numeral, noFraction]
      · simp [numeral, noFraction]
    | bare => rfl
    | plus => rfl
    | minus => rfl

/-! ### Numbers that are read -/

theorem areDigits_takeWhile {text : List Char} (nonempty : text.takeWhile Decimal.isDigit ≠ []) :
    AreDigits (text.takeWhile Decimal.isDigit) :=
  ⟨nonempty, List.all_eq_true.1 List.all_takeWhile⟩

theorem exists_of_takeSign {text rest : List Char} {isNegative : Bool}
    (taken : takeSign text = (isNegative, rest)) :
    ∃ sign, WritesSign sign isNegative ∧ text = sign ++ rest := by
  unfold takeSign at taken
  split at taken
  · cases taken
    exact ⟨['-'], .minus, rfl⟩
  · cases taken
    exact ⟨[], .none, rfl⟩

theorem of_whole? {text whole rest : List Char} (read : whole? text = some (whole, rest)) :
    IsWhole whole ∧ text = whole ++ rest := by
  unfold whole? at read
  split at read
  · cases read
  · rename_i first more
    split at read
    · rename_i zero
      cases read
      refine ⟨⟨⟨List.cons_ne_nil _ _, ?_⟩, fun _ => by rw [zero]⟩, rfl⟩
      rw [List.forall_mem_singleton, zero]
      decide
    · rename_i noZero
      split at read
      · rename_i isDigit
        cases read
        refine ⟨⟨⟨List.cons_ne_nil _ _, ?_⟩, fun zero => absurd (Option.some.inj zero) noZero⟩, ?_⟩
        · exact List.forall_mem_cons.2 ⟨isDigit, List.all_eq_true.1 List.all_takeWhile⟩
        · rw [List.cons_append, List.takeWhile_append_dropWhile]
      · cases read

theorem exists_of_fraction? (text : List Char) :
    ∃ point, WritesFraction point ((fraction? text).getD ([], text)).1 ∧
      text = point ++ ((fraction? text).getD ([], text)).2 := by
  unfold fraction?
  split
  · rename_i rest
    split
    · exact ⟨[], .none, rfl⟩
    · rename_i nonempty
      refine ⟨_, .digits (areDigits_takeWhile nonempty), ?_⟩
      exact (congrArg ('.' :: ·) List.takeWhile_append_dropWhile).symm
  · exact ⟨[], .none, rfl⟩

theorem exists_of_exponent? {text rest : List Char} {exponent : Int}
    (read : exponent? text = some (exponent, rest)) :
    ∃ power, WritesExponent power (some exponent) ∧ text = power ++ rest := by
  unfold exponent? at read
  split at read
  · cases read
  · rename_i letter behind
    split at read
    · rename_i isLetter
      have mem : letter ∈ ['e', 'E'] := by simpa using isLetter
      split at read
      rename_i isNegative afterSign signRead
      split at read
      · cases read
      · rename_i nonempty
        have areDigits := areDigits_takeWhile nonempty
        cases read
        split at signRead
        · cases signRead
          exact ⟨_, .minus mem areDigits, by simp⟩
        · cases signRead
          exact ⟨_, .plus mem areDigits, by simp⟩
        · cases signRead
          exact ⟨_, .bare mem areDigits, by simp⟩
    · cases read

theorem exists_of_number? {text rest : List Char} {json : Json}
    (read : number? text = some (json, rest)) :
    ∃ written, WritesNumber written json ∧ text = written ++ rest := by
  rcases taken : takeSign text with ⟨isNegative, afterSign⟩
  rcases exists_of_takeSign taken with ⟨sign, isSign, rfl⟩
  simp only [number?, taken, Option.bind_eq_bind, Option.bind_eq_some_iff] at read
  rcases read with ⟨⟨whole, afterWhole⟩, readWhole, read⟩
  rcases of_whole? readWhole with ⟨isWhole, rfl⟩
  rcases exists_of_fraction? afterWhole with ⟨point, isFraction, atPoint⟩
  dsimp only at read
  generalize (fraction? afterWhole).getD ([], afterWhole) = fractionRead at read isFraction atPoint
  rcases fractionRead with ⟨fraction, afterFraction⟩
  dsimp only at read isFraction atPoint
  split at read
  · rename_i exponent behind readExponent
    rcases exists_of_exponent? readExponent with ⟨power, isExponent, rfl⟩
    cases read
    exact ⟨_, .parts isSign isWhole isFraction isExponent, by simp [atPoint]⟩
  · have written := WritesNumber.parts isSign isWhole isFraction .none
    split at read
    · rename_i noFraction
      cases read
      rw [numeral, if_pos (List.isEmpty_iff.1 noFraction)] at written
      exact ⟨_, written, by simp [atPoint]⟩
    · rename_i hasFraction
      cases read
      rw [numeral, if_neg (mt List.isEmpty_iff.2 hasFraction)] at written
      exact ⟨_, written, by simp [atPoint]⟩

/-! ### Words -/

theorem scalar_word {limit? : Option Nat} {word : String × Json} (mem : word ∈ words)
    (rest : List Char) :
    scalar limit? (word.1.toList ++ rest) = .ok (word.2, rest) := by
  simp only [words, List.mem_cons, List.not_mem_nil, or_false] at mem
  rcases mem with rfl | rfl | rfl | rfl | rfl | rfl
  · exact scalar_null rest
  · exact scalar_bool true rest
  · exact scalar_bool false rest
  · exact scalar_nan rest
  · exact scalar_infinity false rest
  · exact scalar_infinity true rest

theorem exists_of_word? {text rest : List Char} {json : Json}
    (read : word? text = some (json, rest)) :
    ∃ word ∈ words, word.2 = json ∧ text = word.1.toList ++ rest := by
  rcases List.exists_of_findSome?_eq_some read with ⟨⟨word, value⟩, mem, same⟩
  dsimp only at same
  split at same
  · rename_i isPrefix
    rcases List.isPrefixOf_iff_prefix.1 isPrefix with ⟨behind, rfl⟩
    cases same
    exact ⟨_, mem, rfl, by simp [← String.length_toList]⟩
  · cases same

theorem word?_number {text : List Char} {json : Json} (isNumber : WritesNumber text json)
    (rest : List Char) :
    word? (text ++ rest) = none := by
  cases isNumber with
  | parts isSign isWhole _ _ =>
    rcases List.exists_cons_of_ne_nil isWhole.1.1 with ⟨first, more, rfl⟩
    have noWord := word?_digit (isWhole.1.2 first List.mem_cons_self)
    cases isSign with
    | none => exact (noWord _).1
    | minus => exact (noWord _).2

end Schemagram.Json
