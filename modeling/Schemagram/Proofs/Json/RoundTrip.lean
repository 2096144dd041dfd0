import Schemagram.Proofs.Json.Denotation

/-!
# Values read back

Reading undoes writing for every value whose parts last: strings without surrogates that would be
read as a pair, objects without two members of one key, and doubles whose digits denote them.

What is written of such a value denotes it by the rules of the notation, with line breaks for white
space: the one before an item is its own, and so is the one behind the last item.
-/

namespace Schemagram.Json

open Text (CodePoint ends_nil join)

variable {limit? : Option Nat}

/-- The digits of a double denote it.  No limit counts for doubles. -/
def ReadsBack (value : Double) : Prop :=
  ∀ rest, EndsNumber rest → scalar none (value.text doubleWords ++ rest) = .ok (.double value, rest)

/-- A value that reading under a limit gives back once it has been written. -/
inductive Lasting (limit? : Option Nat) : Json → Prop where
  | null : Lasting limit? .null
  | bool (value : Bool) : Lasting limit? (.bool value)
  | integer {value : Int} (isWithin : Decimal.isWithin limit? value = true) :
    Lasting limit? (.integer value)
  | double {value : Double} (readsBack : ReadsBack value) : Lasting limit? (.double value)
  | string {text : List CodePoint} (joined : Joined text) : Lasting limit? (.string text)
  | array {items : List Json} (lasting : ∀ item ∈ items, Lasting limit? item) :
    Lasting limit? (.array items)
  | object {members : List (List CodePoint × Json)} (distinct : (Keyed.keys members).Nodup)
      (joined : ∀ member ∈ members, Joined member.1)
      (lasting : ∀ member ∈ members, Lasting limit? member.2) : Lasting limit? (.object members)

/-! ### Scalars -/

theorem isWhole_digits (value : Nat) : IsWhole (Decimal.digits value) := by
  refine ⟨⟨Decimal.digits_ne_nil value, fun _ => Decimal.isDigit_of_mem_digits⟩, fun zero => ?_⟩
  rw [Decimal.eq_zero_of_head?_digits zero, Decimal.digits_zero]

theorem writesNumber_integer (value : Int) :
    WritesNumber (Decimal.integer value) (.integer value) := by
  cases value with
  | ofNat value =>
    have written := WritesNumber.parts .none (isWhole_digits value) .none .none
    simpa [numeral, Decimal.ofDigits_digits, Decimal.integer] using written
  | negSucc value =>
    have written := WritesNumber.parts .minus (isWhole_digits (value + 1)) .none .none
    simpa [numeral, Decimal.ofDigits_digits, Decimal.integer, Int.negSucc_eq] using written

theorem writesString_printString {text : List CodePoint} (joined : Joined text) :
    WritesString (printString text) text := by
  rcases writesString_of_readString (readString_printed joined []) with ⟨written, isString, split⟩
  rw [List.append_nil] at split
  rw [← split] at isString
  exact isString

/-- A double that is written as a number is taken off whatever follows it. -/
theorem readsBack_of_writesNumber {value : Double}
    (isNumber : WritesNumber (value.text doubleWords) (.double value)) :
    ReadsBack value := by
  intro rest ends
  exact scalar_number isNumber rfl ends

/-- What is a double is one under every limit. -/
theorem scalar_of_readsBack {value : Double} (readsBack : ReadsBack value) {rest : List Char}
    (ends : EndsNumber rest) :
    scalar limit? (value.text doubleWords ++ rest) = .ok (.double value, rest) := by
  have read := readsBack rest ends
  unfold scalar at read ⊢
  split at read
  · exact read
  · split at read
    · rename_i found after _
      -- Nothing but a double is left, and a double has no excess.
      split at read
      · cases read
      · cases read
        rfl
    · cases read

theorem ReadsBack.denotes {value : Double} (readsBack : ReadsBack value) :
    Denotes limit? (value.text doubleWords) (.double value) := by
  rcases takes_scalar (scalar_of_readsBack readsBack (ends_nil _)) with ⟨written, denotes, split⟩
  rw [List.append_nil, List.append_nil] at split
  rwa [split]

/-! ### Containers -/

theorem newLine_blank (depth : Nat) : IsBlank (newLine depth) := by
  intro char mem
  rcases List.mem_cons.1 mem with rfl | mem
  · rfl
  · rw [List.eq_of_mem_replicate mem]
    rfl

/-- Items that are printed on lines of their own are items between commas. -/
theorem exists_items {depth : Nat} (outer : Nat) {first : Json} {more : List Json}
    (denote : ∀ item ∈ first :: more, Denotes limit? (printLines depth item) item) :
    ∃ items : List Spaced, items ≠ [] ∧ (∀ item ∈ items, Denotes limit? item.text item.value) ∧
      items.map Spaced.value = first :: more ∧
      newLine depth ++ (separated (',' :: newLine depth) (blockItems depth (first :: more)) ++
        newLine outer) =
        join [','] (items.map Spaced.written) := by
  induction more generalizing first with
  | nil =>
    let item : Spaced :=
      ⟨newLine depth, printLines depth first, newLine outer, first, newLine_blank depth,
      newLine_blank outer⟩
    exact ⟨[item], List.cons_ne_nil item [],
      List.forall_mem_singleton.2 (denote first List.mem_cons_self), rfl, rfl⟩
  | cons second more ih =>
    rw [List.forall_mem_cons] at denote
    rcases ih denote.2 with ⟨items, nonempty, denoteMore, values, same⟩
    rcases List.exists_cons_of_ne_nil nonempty with ⟨item, others, rfl⟩
    let before : Spaced :=
      ⟨newLine depth, printLines depth first, [], first, newLine_blank depth, isBlank_nil⟩
    refine ⟨before :: item :: others, List.cons_ne_nil _ _,
      List.forall_mem_cons.2 ⟨denote.1, denoteMore⟩,
      congrArg (first :: ·) values, ?_⟩
    rw [List.map_cons, List.map_cons, join_cons_cons, ← List.map_cons, ← same]
    simp [blockItems, separated, Spaced.written, before]

/-- Members that are printed on lines of their own are members between commas. -/
theorem exists_members {depth : Nat} (outer : Nat) {first : List CodePoint × Json}
    {more : List (List CodePoint × Json)} (joined : ∀ member ∈ first :: more, Joined member.1)
    (denote : ∀ member ∈ first :: more, Denotes limit? (printLines depth member.2) member.2) :
    ∃ members : List Member, members ≠ [] ∧
    (∀ member ∈ members, WritesString member.keyText member.key) ∧
      (∀ member ∈ members, Denotes limit? member.item.text member.item.value) ∧
      members.map (fun member => (member.key, member.item.value)) = first :: more ∧
      newLine depth ++ (separated (',' :: newLine depth) (blockMembers depth (first :: more)) ++
        newLine outer) =
        join [','] (members.map Member.written) := by
  have space : IsBlank [' '] := by
    unfold IsBlank
    decide
  induction more generalizing first with
  | nil =>
    rw [List.forall_mem_singleton] at joined denote
    let item : Spaced :=
      ⟨[' '], printLines depth first.2, newLine outer, first.2, space, newLine_blank outer⟩
    let member : Member :=
      ⟨newLine depth, printString first.1, [], first.1, item, newLine_blank depth, isBlank_nil⟩
    refine ⟨[member], List.cons_ne_nil member [],
      List.forall_mem_singleton.2 (writesString_printString joined),
      List.forall_mem_singleton.2 denote, rfl, ?_⟩
    simp [blockMembers, separated, join, Member.written, Spaced.written, member, item]
  | cons second more ih =>
    rw [List.forall_mem_cons] at joined denote
    rcases ih joined.2 denote.2 with ⟨members, nonempty, named, denoteMore, pairs, same⟩
    rcases List.exists_cons_of_ne_nil nonempty with ⟨next, others, rfl⟩
    let item : Spaced := ⟨[' '], printLines depth first.2, [], first.2, space, isBlank_nil⟩
    let member : Member :=
      ⟨newLine depth, printString first.1, [], first.1, item, newLine_blank depth, isBlank_nil⟩
    refine ⟨member :: next :: others, List.cons_ne_nil _ _,
      List.forall_mem_cons.2 ⟨writesString_printString joined.1, named⟩,
      List.forall_mem_cons.2 ⟨denote.1, denoteMore⟩,
      congrArg (first :: ·) pairs, ?_⟩
    rw [List.map_cons, List.map_cons, join_cons_cons, ← List.map_cons, ← same]
    simp [blockMembers, separated, Member.written, Spaced.written, member, item]

theorem denotes_array {items : List Json}
    (denote : ∀ item ∈ items, ∀ depth, Denotes limit? (printLines depth item) item) (depth : Nat) :
    Denotes limit? (printLines depth (.array items)) (.array items) := by
  cases items with
  | nil => exact .emptyArray isBlank_nil
  | cons first more =>
    rcases exists_items depth fun item mem => denote item mem (depth + 1) with
      ⟨items, nonempty, denotes, values, same⟩
    have written := Denotes.array nonempty denotes
    rw [← same, values] at written
    simpa [printLines, printBlock, blockItems] using written

theorem denotes_object {members : List (List CodePoint × Json)}
    (distinct : (Keyed.keys members).Nodup) (joined : ∀ member ∈ members, Joined member.1)
    (denote : ∀ member ∈ members, ∀ depth, Denotes limit? (printLines depth member.2) member.2)
    (depth : Nat) :
    Denotes limit? (printLines depth (.object members)) (.object members) := by
  cases members with
  | nil => exact .emptyObject isBlank_nil
  | cons first more =>
    rcases exists_members depth joined fun member mem => denote member mem (depth + 1) with
      ⟨members, nonempty, named, denotes, pairs, same⟩
    have written := Denotes.object nonempty named denotes
    rw [← same, pairs, ← Keyed.ofPairs_eq_latest, Keyed.ofPairs_of_nodup distinct] at written
    simpa [printLines, printBlock, blockMembers] using written

/-- What is written of a value denotes it. -/
theorem Lasting.denotes {json : Json} (lasting : Lasting limit? json) :
    ∀ depth, Denotes limit? (printLines depth json) json := by
  induction lasting with
  | null =>
    have isWord : ("null", .null) ∈ words := by simp [words]
    exact fun _ => .word isWord
  | bool value =>
    have isWord : (if value then "true" else "false", .bool value) ∈ words := by
      cases value <;> simp [words]
    exact fun _ => .word isWord
  | integer isWithin => exact fun _ => .number (writesNumber_integer _) isWithin
  | double readsBack => exact fun _ => readsBack.denotes
  | string joined => exact fun _ => .string (writesString_printString joined)
  | array _ ih => exact denotes_array ih
  | object distinct joined _ ih => exact denotes_object distinct joined ih

/-- Reading undoes writing. -/
theorem parse_printLines {json : Json} (lasting : Lasting limit? json) :
    parse limit? (printLines 0 json) = .ok json := by
  apply parse_of_isTextOf
  refine ⟨⟨[], printLines 0 json, [], json, isBlank_nil, isBlank_nil⟩, lasting.denotes 0, ?_, rfl⟩
  exact List.append_nil _

end Schemagram.Json
