import Schemagram.Proofs.Json.RoundTrip

/-!
# Values that reading yields

Whatever text is read as a value, the value is orderly: its strings hold no two surrogates that
would be read as a pair, since such escapes have been joined, and its objects hold no key twice,
since the last member of a key has taken the place of the others.  Its integers are within the limit
under which it is read.  So it lasts if its doubles do.

Words and numbers last without further ado; of the doubles, those without digits do, too.
-/

namespace Schemagram

namespace Json

open Text (CodePoint)

/-! ### Orderly values -/

/-- A value whose strings hold no two surrogates that would be read as a pair, whose objects hold no
key twice, and whose integers are within a limit. -/
inductive Orderly (limit? : Option Nat) : Json → Prop where
  | null : Orderly limit? .null
  | bool (value : Bool) : Orderly limit? (.bool value)
  | integer {value : Int} (isWithin : Decimal.isWithin limit? value = true) :
    Orderly limit? (.integer value)
  | double (value : Double) : Orderly limit? (.double value)
  | string {text : List CodePoint} (joined : Joined text) : Orderly limit? (.string text)
  | array {items : List Json} (orderly : ∀ item ∈ items, Orderly limit? item) :
    Orderly limit? (.array items)
  | object {members : List (List CodePoint × Json)} (distinct : (Keyed.keys members).Nodup)
      (joined : ∀ member ∈ members, Joined member.1)
      (orderly : ∀ member ∈ members, Orderly limit? member.2) : Orderly limit? (.object members)

variable {limit? : Option Nat}

theorem Orderly.fits {json : Json} (orderly : Orderly limit? json) : json.fits limit? = true := by
  induction orderly with
  | integer isWithin => exact isWithin
  | array _ ih => exact fits_array.2 ih
  | object _ _ _ ih => exact fits_object.2 ih
  | _ => rfl

mutual

/-- The doubles that stand in a value, however deep. -/
def doubles : Json → List Double
  | .double value => [value]
  | .array items => itemDoubles items
  | .object members => memberDoubles members
  | _ => []

def itemDoubles : List Json → List Double
  | [] => []
  | item :: more => item.doubles ++ itemDoubles more

def memberDoubles : List (List CodePoint × Json) → List Double
  | [] => []
  | (_, value) :: more => value.doubles ++ memberDoubles more

end

theorem mem_doubles_array {value : Double} {items : List Json} :
    value ∈ (array items).doubles ↔ ∃ item ∈ items, value ∈ item.doubles := by
  rw [doubles]
  induction items with
  | nil => simp [itemDoubles]
  | cons item more ih => simp [itemDoubles, ih]

theorem mem_doubles_object {value : Double} {members : List (List CodePoint × Json)} :
    value ∈ (object members).doubles ↔ ∃ member ∈ members, value ∈ member.2.doubles := by
  rw [doubles]
  induction members with
  | nil => simp [memberDoubles]
  | cons member more ih => simp [memberDoubles, ih]

theorem Orderly.lasting {json : Json} (orderly : Orderly limit? json)
    (readBack : ∀ value ∈ json.doubles, ReadsBack value) : Lasting limit? json := by
  induction orderly with
  | null => exact .null
  | bool value => exact .bool value
  | integer isWithin => exact .integer isWithin
  | double value => exact .double (readBack value (by simp [doubles]))
  | string joined => exact .string joined
  | array _ ih =>
    exact .array fun item mem => ih item mem fun value inItem =>
      readBack value (mem_doubles_array.2 ⟨item, mem, inItem⟩)
  | object distinct joined _ ih =>
    exact .object distinct joined fun member mem => ih member mem fun value inMember =>
      readBack value (mem_doubles_object.2 ⟨member, mem, inMember⟩)

/-! ### Doubles without digits -/

theorem readsBack_nan : ReadsBack .nan := fun rest _ => scalar_nan rest

theorem readsBack_infinity (isNegative : Bool) : ReadsBack (.infinity isNegative) := by
  intro rest _
  have read := @scalar_infinity none isNegative rest
  cases isNegative with
  | false => exact read
  | true => exact read

/-! ### Reading -/

/-- The point of a pair lies beyond the surrogates. -/
theorem pair?_of_pair? {high low point : CodePoint} (paired : pair? high low = some point)
    (other : CodePoint) :
    pair? point other = none ∧ pair? other point = none := by
  unfold pair? at paired
  split at paired
  · have beyond : 0x10000 ≤ point.val := by
      rw [← Option.some.inj paired]
      dsimp only
      omega
    refine ⟨?_, pair?_of_not_low (by omega)⟩
    rw [pair?, dif_neg]
    omega
  · cases paired

theorem head?_joinPairs {high : CodePoint} {units : List CodePoint}
    (noPair : ∀ low ∈ units.head?, pair? high low = none) :
    ∀ low ∈ (joinPairs units).head?, pair? high low = none := by
  fun_cases joinPairs units with
  | case1 first second rest point paired =>
    intro low mem
    rw [← Option.mem_some_iff.1 mem]
    exact (pair?_of_pair? paired high).2
  | case2 first second rest _ => exact noPair
  | case3 => exact noPair

/-- However units stand beside each other, no two of them would be read as a pair once pairs are
joined. -/
theorem joined_joinPairs (units : List CodePoint) : Joined (joinPairs units) := by
  fun_induction joinPairs units with
  | case1 high low rest point paired ih =>
    exact List.isChain_cons.2 ⟨fun other _ => (pair?_of_pair? paired other).1, ih⟩
  | case2 high low rest unpaired ih =>
    refine List.isChain_cons.2 ⟨head?_joinPairs fun other mem => ?_, ih⟩
    rw [← Option.mem_some_iff.1 mem]
    exact unpaired
  | case3 units short =>
    match units with
    | [] => exact .nil
    | [point] => exact .singleton point
    | high :: low :: rest => exact absurd rfl (short high low rest)

theorem Orderly.ofPairs {members : List (List CodePoint × Json)}
    (orderly : ∀ member ∈ members, Joined member.1 ∧ Orderly limit? member.2) :
    Orderly limit? (.object (Keyed.ofPairs members)) :=
  .object (Keyed.nodup_keys_ofPairs members)
    (fun member mem => (orderly member (Keyed.mem_of_mem_ofPairs mem)).1)
    fun member mem => (orderly member (Keyed.mem_of_mem_ofPairs mem)).2

theorem joined_of_writesString {text : List Char} {points : List CodePoint}
    (isString : WritesString text points) :
    Joined points := by
  cases isString
  exact joined_joinPairs _

theorem orderly_numeral {isNegative : Bool} {whole fraction : List Char} {exponent? : Option Int}
    (fits : (numeral isNegative whole fraction exponent?).fits limit? = true) :
    Orderly limit? (numeral isNegative whole fraction exponent?) := by
  cases exponent? with
  | none =>
    rw [numeral] at fits ⊢
    split
    · rename_i noFraction
      rw [if_pos noFraction] at fits
      exact .integer fits
    · exact .double _
  | some exponent => exact .double _

/-- What a text denotes is orderly, since its parts are. -/
theorem Denotes.orderly {text : List Char} {json : Json} (denotes : Denotes limit? text json) :
    Orderly limit? json := by
  induction denotes with
  | word mem =>
    have orderlyWords : ∀ word ∈ words, Orderly limit? word.2 := by
      simp only [words, List.forall_mem_cons, List.not_mem_nil, false_implies,
        implies_true, and_true]
      exact ⟨.null, .bool true, .bool false, .double _, .double _, .double _⟩
    exact orderlyWords _ mem
  | number isNumber fits =>
    cases isNumber
    exact orderly_numeral fits
  | string isString => exact .string (joined_of_writesString isString)
  | emptyArray _ => exact .array (List.forall_mem_nil _)
  | array _ _ ih =>
    apply Orderly.array
    intro value mem
    rcases List.mem_map.1 mem with ⟨item, memItems, rfl⟩
    exact ih item memItems
  | emptyObject _ => exact .object List.nodup_nil (List.forall_mem_nil _) (List.forall_mem_nil _)
  | object _ named _ ih =>
    rw [← Keyed.ofPairs_eq_latest]
    apply Orderly.ofPairs
    intro pair mem
    rcases List.mem_map.1 mem with ⟨member, memMembers, rfl⟩
    exact ⟨joined_of_writesString (named member memMembers), ih member memMembers⟩

theorem orderly_of_parse {text : List Char} {json : Json} (read : parse limit? text = .ok json) :
    Orderly limit? json := by
  rcases isTextOf_of_parse read with ⟨item, denotes, _, rfl⟩
  exact denotes.orderly

end Json

end Schemagram
