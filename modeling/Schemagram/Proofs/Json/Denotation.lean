import Schemagram.Proofs.Json.Notation
import Schemagram.Proofs.Keyed
import Schemagram.Proofs.Results
import Schemagram.Text.Piece

/-!
# Texts of values

A text denotes a value by the rules of the notation alone: words, numbers, strings, items between
commas and members between commas, with white space around all of them.  Of several members with one
key the first tells the place and the last the value.  Under a limit no integer in the text may have
more digits than it allows, whether the integer counts for the value or not.

A text is read as a value if and only if it denotes the value.  One direction goes along the rules,
with the steps bounded by the length of the text; the other one goes along the steps.
-/

namespace Schemagram.Json

open Text (CodePoint Ends ends_cons ends_nil join)

variable {limit? : Option Nat}

def IsBlank (text : List Char) : Prop := ∀ char ∈ text, isBlank char = true

/-- The text of a value with white space around it. -/
structure Spaced where
  before : List Char
  text : List Char
  after : List Char
  value : Json
  blankBefore : IsBlank before
  blankAfter : IsBlank after

def Spaced.written (item : Spaced) : List Char := item.before ++ (item.text ++ item.after)

/-- The text of a key, a colon and a value, with white space around all of them. -/
structure Member where
  before : List Char
  keyText : List Char
  between : List Char
  key : List CodePoint
  item : Spaced
  blankBefore : IsBlank before
  blankBetween : IsBlank between

def Member.written (member : Member) : List Char :=
  member.before ++ (member.keyText ++ (member.between ++ ':' :: member.item.written))

inductive Denotes (limit? : Option Nat) : List Char → Json → Prop where
  | word {word : String × Json} (mem : word ∈ words) : Denotes limit? word.1.toList word.2
  | number {text : List Char} {value : Json} (isNumber : WritesNumber text value)
    (fits : value.fits limit? = true) : Denotes limit? text value
  | string {text : List Char} {points : List CodePoint} (isString : WritesString text points) :
    Denotes limit? text (.string points)
  | emptyArray {gap : List Char} (blank : IsBlank gap) :
    Denotes limit? ('[' :: (gap ++ [']'])) (.array [])
  | array {items : List Spaced} (nonempty : items ≠ [])
    (denote : ∀ item ∈ items, Denotes limit? item.text item.value) :
    Denotes limit? ('[' :: (join [','] (items.map Spaced.written) ++ [']']))
      (.array (items.map Spaced.value))
  | emptyObject {gap : List Char} (blank : IsBlank gap) :
    Denotes limit? ('\x7b' :: (gap ++ ['\x7d'])) (.object [])
  | object {members : List Member} (nonempty : members ≠ [])
    (named : ∀ member ∈ members, WritesString member.keyText member.key)
    (denote : ∀ member ∈ members, Denotes limit? member.item.text member.item.value) :
    Denotes limit? ('\x7b' :: (join [','] (members.map Member.written) ++ ['\x7d']))
      (.object (Keyed.latest (members.map fun member => (member.key, member.item.value))))

/-- A text of a value, with white space around it. -/
def IsTextOf (limit? : Option Nat) (text : List Char) (value : Json) : Prop :=
  ∃ item : Spaced, Denotes limit? item.text item.value ∧ item.written = text ∧ item.value = value

/-! ### White space -/

theorem afterBlanks_append {gap : List Char} (blank : IsBlank gap) (text : List Char) :
    afterBlanks (gap ++ text) = afterBlanks text :=
  List.dropWhile_append_of_pos blank

theorem afterBlanks_append_cons {gap : List Char} (blank : IsBlank gap) {char : Char}
    (noBlank : isBlank char = false) (rest : List Char) :
    afterBlanks (gap ++ char :: rest) = char :: rest := by
  rw [afterBlanks_append blank, afterBlanks_of_ends (ends_cons.2 noBlank)]

theorem exists_blank (text : List Char) : ∃ gap, IsBlank gap ∧ text = gap ++ afterBlanks text :=
  ⟨text.takeWhile isBlank, List.all_eq_true.1 List.all_takeWhile,
    List.takeWhile_append_dropWhile.symm⟩

theorem exists_of_afterBlanks {text rest : List Char} (skipped : afterBlanks text = rest) :
    ∃ gap, IsBlank gap ∧ text = gap ++ rest := by
  rcases exists_blank text with ⟨gap, blank, split⟩
  rw [skipped] at split
  exact ⟨gap, blank, split⟩

theorem endsNumber_mark {mark : Char} (isMark : mark ∈ [',', ']', '\x7d']) (rest : List Char) :
    EndsNumber (mark :: rest) := by
  simp only [List.mem_cons, List.not_mem_nil, or_false] at isMark
  rcases isMark with rfl | rfl | rfl <;> simp [EndsNumber, Decimal.isDigit]

theorem endsNumber_append {gap rest : List Char} (blank : IsBlank gap) (ends : EndsNumber rest) :
    EndsNumber (gap ++ rest) := by
  cases gap with
  | nil => exact ends
  | cons char more =>
    have isFirst := blank char List.mem_cons_self
    simp only [isBlank, Bool.or_eq_true, decide_eq_true_eq, or_assoc] at isFirst
    rcases isFirst with rfl | rfl | rfl | rfl <;> simp [EndsNumber, Decimal.isDigit]

/-! ### What denotes a value is read as it -/

/-- A text is taken for a value off whatever follows it. -/
def ReadsAs (limit? : Option Nat) (text : List Char) (json : Json) : Prop :=
  ∀ steps rest, 2 * text.length ≤ steps → EndsNumber rest →
    value limit? steps (text ++ rest) = .ok (json, rest)

theorem ReadsAs.head {text : List Char} {json : Json} (reads : ReadsAs limit? text json) :
    ∃ first more, text = first :: more ∧ isBlank first = false ∧ first ≠ ']' ∧
    first ≠ '\ufeff' := by
  have read := reads _ [] (Nat.le_refl _) (ends_nil _)
  rw [List.append_nil] at read
  exact head_of_value read

theorem ReadsAs.ends {text : List Char} {json : Json} (reads : ReadsAs limit? text json)
    (rest : List Char) :
    Ends isBlank (text ++ rest) := by
  rcases reads.head with ⟨first, more, rfl, noBlank, _⟩
  exact ends_cons.2 noBlank

/-- The white space before a value is skipped, and the value is left. -/
theorem afterBlanks_spaced {item : Spaced} (reads : ReadsAs limit? item.text item.value)
    (rest : List Char) :
    afterBlanks (item.written ++ rest) = item.text ++ (item.after ++ rest) := by
  rw [Spaced.written, List.append_assoc, List.append_assoc, afterBlanks_append item.blankBefore,
    afterBlanks_of_ends (reads.ends _)]

theorem join_cons_cons (separator first second : List Char) (more : List (List Char)) :
    join separator (first :: second :: more) = first ++ separator ++
      join separator (second :: more) := rfl

theorem readsAs_scalar {text : List Char} {json : Json}
    (read : ∀ rest, EndsNumber rest → scalar limit? (text ++ rest) = .ok (json, rest)) :
    ReadsAs limit? text json := by
  intro steps rest enough ends
  cases steps with
  | zero =>
    have noText : text = [] := List.eq_nil_of_length_eq_zero (by omega)
    have noScalar := read [] (ends_nil _)
    rw [noText] at noScalar
    cases noScalar
  | succ steps => exact value_of_scalar (read rest ends) steps

theorem readExcess?_numeral (isNegative : Bool) (whole fraction : List Char)
    (exponent? : Option Int) :
    (numeral isNegative whole fraction exponent?).readExcess? limit? = none ↔
      (numeral isNegative whole fraction exponent?).fits limit? = true := by
  cases exponent? with
  | none =>
    rw [numeral]
    split
    · rw [readExcess?, fits]
      exact Decimal.readExcess?_eq_none_iff
    · exact iff_of_true rfl rfl
  | some exponent => exact iff_of_true rfl rfl

theorem WritesNumber.readExcess?_eq_none_iff {text : List Char} {json : Json}
    (isNumber : WritesNumber text json) :
    json.readExcess? limit? = none ↔ json.fits limit? = true := by
  cases isNumber
  exact readExcess?_numeral _ _ _ _

theorem scalar_number {text rest : List Char} {json : Json} (isNumber : WritesNumber text json)
    (fits : json.fits limit? = true) (ends : EndsNumber rest) :
    scalar limit? (text ++ rest) = .ok (json, rest) := by
  rw [scalar, word?_number isNumber, number?_number isNumber ends]
  simp only [isNumber.readExcess?_eq_none_iff.2 fits]

theorem readsAs_number {text : List Char} {json : Json} (isNumber : WritesNumber text json)
    (fits : json.fits limit? = true) : ReadsAs limit? text json :=
  readsAs_scalar fun _ ends => scalar_number isNumber fits ends

theorem readsAs_string {text : List Char} {points : List CodePoint}
    (isString : WritesString text points) :
    ReadsAs limit? text (.string points) := by
  intro steps rest enough _
  rcases readString_string isString rest with ⟨inside, split, read⟩
  cases steps with
  | zero =>
    cases isString
    simp at enough
  | succ steps =>
    rw [split, value, read]
    rfl

theorem items_join {first : Spaced} {more : List Spaced}
    (reads : ∀ item ∈ first :: more, ReadsAs limit? item.text item.value) (rest : List Char)
    {steps : Nat}
    (enough : 2 * (join [','] ((first :: more).map Spaced.written)).length + 1 ≤ steps) :
    items limit? steps
    (afterBlanks (join [','] ((first :: more).map Spaced.written) ++ ']' :: rest)) =
      .ok ((first :: more).map Spaced.value, rest) := by
  cases steps with
  | zero => omega
  | succ steps =>
    induction more generalizing first steps with
    | nil =>
      have readsFirst := reads first List.mem_cons_self
      have length : first.written.length = first.before.length +
          (first.text.length + first.after.length) := by
        simp [Spaced.written]
      simp only [List.map_cons, List.map_nil, join] at enough ⊢
      rw [afterBlanks_spaced readsFirst]
      apply items_last
      · exact readsFirst steps _ (by omega)
          (endsNumber_append first.blankAfter (endsNumber_mark (by simp) rest))
      · exact afterBlanks_append_cons first.blankAfter (by decide) rest
    | cons second more ih =>
      rw [List.forall_mem_cons] at reads
      have length : first.written.length = first.before.length +
          (first.text.length + first.after.length) := by
        simp [Spaced.written]
      simp only [List.map_cons, join_cons_cons, List.length_append, List.length_cons,
        List.append_assoc, List.singleton_append] at enough ⊢
      rw [afterBlanks_spaced reads.1]
      apply items_next
      · exact reads.1 steps _ (by omega)
          (endsNumber_append first.blankAfter (endsNumber_mark (by simp) _))
      · exact afterBlanks_append_cons first.blankAfter (by decide) _
      · cases steps with
        | zero => omega
        | succ steps => exact ih reads.2 steps (by simp only [List.map_cons]; omega)

theorem memberKey_member {member : Member} (isString : WritesString member.keyText member.key)
    (reads : ReadsAs limit? member.item.text member.item.value) (rest : List Char) :
    memberKey (afterBlanks (member.written ++ rest)) =
      .ok (member.key, member.item.text ++ (member.item.after ++ rest)) := by
  rcases readString_string isString (member.between ++ ':' :: (member.item.written ++ rest)) with
    ⟨inside, split, read⟩
  have skipped : afterBlanks (member.written ++ rest) = '"' :: inside := by
    rw [← split, Member.written, List.append_assoc, afterBlanks_append member.blankBefore,
      List.append_assoc, List.append_assoc, List.cons_append, split,
      afterBlanks_of_ends (ends_cons.2 (by decide))]
  have colon := afterBlanks_append_cons member.blankBetween (by decide : isBlank ':' = false)
    (member.item.written ++ rest)
  rw [skipped, memberKey, read]
  simp only [bind, Except.bind, colon, afterBlanks_spaced reads]

theorem members_join {first : Member} {more : List Member}
    (named : ∀ member ∈ first :: more, WritesString member.keyText member.key)
    (reads : ∀ member ∈ first :: more, ReadsAs limit? member.item.text member.item.value)
    (rest : List Char) {steps : Nat}
    (enough : 2 * (join [','] ((first :: more).map Member.written)).length + 1 ≤ steps) :
    members limit? steps
    (afterBlanks (join [','] ((first :: more).map Member.written) ++ '\x7d' :: rest)) =
      .ok ((first :: more).map fun member => (member.key, member.item.value), rest) := by
  have length (member : Member) : member.item.text.length ≤ member.written.length := by
    simp only [Member.written, Spaced.written, List.length_append, List.length_cons]
    omega
  cases steps with
  | zero => omega
  | succ steps =>
    induction more generalizing first steps with
    | nil =>
      have readsFirst := reads first List.mem_cons_self
      have lengthFirst := length first
      simp only [List.map_cons, List.map_nil, join] at enough ⊢
      apply members_last (memberKey_member (named first List.mem_cons_self) readsFirst _)
      · exact readsFirst steps _ (by omega)
          (endsNumber_append first.item.blankAfter (endsNumber_mark (by simp) rest))
      · exact afterBlanks_append_cons first.item.blankAfter (by decide) rest
    | cons second more ih =>
      rw [List.forall_mem_cons] at named reads
      have lengthFirst := length first
      simp only [List.map_cons, join_cons_cons, List.length_append, List.length_cons,
        List.append_assoc, List.singleton_append] at enough ⊢
      apply members_next (memberKey_member named.1 reads.1 _)
      · exact reads.1 steps _ (by omega)
          (endsNumber_append first.item.blankAfter (endsNumber_mark (by simp) _))
      · exact afterBlanks_append_cons first.item.blankAfter (by decide) _
      · cases steps with
        | zero => omega
        | succ steps => exact ih named.2 reads.2 steps (by simp only [List.map_cons]; omega)

theorem readsAs_emptyArray {gap : List Char} (blank : IsBlank gap) :
    ReadsAs limit? ('[' :: (gap ++ [']'])) (.array []) := by
  intro steps rest enough _
  cases steps with
  | zero => simp at enough
  | succ steps =>
    have closed := afterBlanks_append_cons blank (by decide : isBlank ']' = false) rest
    simp only [List.cons_append, List.append_assoc, List.nil_append, value, closed]

theorem readsAs_emptyObject {gap : List Char} (blank : IsBlank gap) :
    ReadsAs limit? ('\x7b' :: (gap ++ ['\x7d'])) (.object []) := by
  intro steps rest enough _
  cases steps with
  | zero => simp at enough
  | succ steps =>
    have closed := afterBlanks_append_cons blank (by decide : isBlank '\x7d' = false) rest
    simp only [List.cons_append, List.append_assoc, List.nil_append, value, closed]

theorem readsAs_array {items : List Spaced} (nonempty : items ≠ [])
    (reads : ∀ item ∈ items, ReadsAs limit? item.text item.value) :
    ReadsAs limit? ('[' :: (join [','] (items.map Spaced.written) ++ [']']))
    (.array (items.map Spaced.value)) := by
  rcases List.exists_cons_of_ne_nil nonempty with ⟨first, more, rfl⟩
  intro steps rest enough _
  simp only [List.length_cons, List.length_append, List.length_nil] at enough
  simp only [List.cons_append, List.append_assoc, List.nil_append]
  cases steps with
  | zero => omega
  | succ steps => exact value_array (items_join reads rest (by omega))

theorem readsAs_object {members : List Member} (nonempty : members ≠ [])
    (named : ∀ member ∈ members, WritesString member.keyText member.key)
    (reads : ∀ member ∈ members, ReadsAs limit? member.item.text member.item.value) :
    ReadsAs limit? ('\x7b' :: (join [','] (members.map Member.written) ++ ['\x7d']))
      (.object (Keyed.latest (members.map fun member => (member.key, member.item.value)))) := by
  rcases List.exists_cons_of_ne_nil nonempty with ⟨first, more, rfl⟩
  intro steps rest enough _
  simp only [List.length_cons, List.length_append, List.length_nil] at enough
  simp only [List.cons_append, List.append_assoc, List.nil_append]
  cases steps with
  | zero => omega
  | succ steps =>
    rw [← Keyed.ofPairs_eq_latest]
    exact value_object (members_join named reads rest (by omega))

/-- What denotes a value is read as it, whatever follows. -/
theorem Denotes.readsAs {text : List Char} {json : Json} (denotes : Denotes limit? text json) :
    ReadsAs limit? text json := by
  induction denotes with
  | word mem => exact readsAs_scalar fun rest _ => scalar_word mem rest
  | number isNumber fits => exact readsAs_number isNumber fits
  | string isString => exact readsAs_string isString
  | emptyArray blank => exact readsAs_emptyArray blank
  | array nonempty _ ih => exact readsAs_array nonempty ih
  | emptyObject blank => exact readsAs_emptyObject blank
  | object nonempty named _ ih => exact readsAs_object nonempty named ih

/-! ### What is read as a value denotes it -/

/-- Reading takes a text of the value off a text. -/
def Takes (limit? : Option Nat) (text : List Char) (json : Json) (rest : List Char) : Prop :=
  ∃ written, Denotes limit? written json ∧ text = written ++ rest

/-- White space before the first item is that of the item. -/
def TakesItems (limit? : Option Nat) (text : List Char) (found : List Json) (rest : List Char) :
    Prop :=
  ∀ gap, IsBlank gap → ∃ items : List Spaced, items ≠ [] ∧
    (∀ item ∈ items, Denotes limit? item.text item.value) ∧
    items.map Spaced.value = found ∧ gap ++ text = join [','] (items.map Spaced.written) ++
      ']' :: rest

def TakesMembers (limit? : Option Nat) (text : List Char) (found : List (List CodePoint × Json))
    (rest : List Char) : Prop :=
  ∀ gap, IsBlank gap → ∃ members : List Member, members ≠ [] ∧
    (∀ member ∈ members, WritesString member.keyText member.key) ∧
    (∀ member ∈ members, Denotes limit? member.item.text member.item.value) ∧
    members.map (fun member => (member.key, member.item.value)) = found ∧
    gap ++ text = join [','] (members.map Member.written) ++ '\x7d' :: rest

theorem isBlank_nil : IsBlank [] := List.forall_mem_nil _

theorem takes_scalar {text rest : List Char} {json : Json}
    (read : scalar limit? text = .ok (json, rest)) :
    Takes limit? text json rest := by
  unfold scalar at read
  split at read
  · rename_i isWord
    cases read
    rcases exists_of_word? isWord with ⟨word, mem, rfl, rfl⟩
    exact ⟨_, .word mem, rfl⟩
  · split at read
    · rename_i isNumber
      split at read
      · cases read
      · rename_i noExcess
        cases read
        rcases exists_of_number? isNumber with ⟨written, writesNumber, rfl⟩
        exact ⟨_, .number writesNumber (writesNumber.readExcess?_eq_none_iff.1 noExcess), rfl⟩
    · cases read

section step

variable {steps : Nat} {text rest : List Char}

theorem takes_value_succ {json : Json}
    (ofItems : ∀ {text found rest}, items limit? steps text = .ok (found, rest) →
      TakesItems limit? text found rest)
    (ofMembers : ∀ {text found rest}, members limit? steps text = .ok (found, rest) →
      TakesMembers limit? text found rest)
    (read : value limit? (steps + 1) text = .ok (json, rest)) : Takes limit? text json rest := by
  unfold value at read
  split at read
  · rcases exists_of_map_eq_ok Json.string read with ⟨points, readPoints, rfl⟩
    rcases writesString_of_readString readPoints with ⟨written, isString, split⟩
    exact ⟨written, .string isString, split⟩
  · split at read
    · rename_i isEmpty
      cases read
      rcases exists_of_afterBlanks isEmpty with ⟨gap, blank, rfl⟩
      exact ⟨_, .emptyArray blank, by simp⟩
    · rename_i behind _ _
      rcases exists_of_map_eq_ok Json.array read with ⟨found, readItems, rfl⟩
      rcases exists_blank behind with ⟨gap, blank, split⟩
      rcases ofItems readItems gap blank with ⟨items, nonempty, denote, rfl, same⟩
      refine ⟨_, .array nonempty denote, ?_⟩
      rw [split, same]
      simp
  · split at read
    · rename_i isEmpty
      cases read
      rcases exists_of_afterBlanks isEmpty with ⟨gap, blank, rfl⟩
      exact ⟨_, .emptyObject blank, by simp⟩
    · rename_i behind _ _
      rcases exists_of_map_eq_ok (fun found => Json.object (Keyed.ofPairs found)) read with
        ⟨found, readMembers, rfl⟩
      rcases exists_blank behind with ⟨gap, blank, split⟩
      rcases ofMembers readMembers gap blank with ⟨members, nonempty, named, denote, rfl, same⟩
      rw [Keyed.ofPairs_eq_latest]
      refine ⟨_, .object nonempty named denote, ?_⟩
      rw [split, same]
      simp
  · exact takes_scalar read

theorem takes_items_succ {found : List Json}
    (ofValue : ∀ {text json rest}, value limit? steps text = .ok (json, rest) →
      Takes limit? text json rest)
    (ofItems : ∀ {text found rest}, items limit? steps text = .ok (found, rest) →
      TakesItems limit? text found rest)
    (read : items limit? (steps + 1) text = .ok (found, rest)) :
    TakesItems limit? text found rest := by
  intro gap blank
  unfold items at read
  split at read
  · cases read
  · rename_i first behind readFirst
    rcases ofValue readFirst with ⟨written, denotes, rfl⟩
    split at read
    · rename_i closed
      cases read
      rcases exists_of_afterBlanks closed with ⟨after, blankAfter, rfl⟩
      refine ⟨[⟨gap, written, after, first, blank, blankAfter⟩], List.cons_ne_nil _ _, ?_, rfl, ?_⟩
      · exact List.forall_mem_singleton.2 denotes
      · simp [join, Spaced.written]
    · rename_i behindComma parted
      rcases exists_of_map_eq_ok (first :: ·) read with ⟨more, readMore, rfl⟩
      rcases exists_of_afterBlanks parted with ⟨after, blankAfter, rfl⟩
      rcases exists_blank behindComma with ⟨before, blankBefore, split⟩
      rcases ofItems readMore before blankBefore with ⟨others, nonempty, denote, rfl, same⟩
      rcases List.exists_cons_of_ne_nil nonempty with ⟨second, others, rfl⟩
      refine ⟨⟨gap, written, after, first, blank, blankAfter⟩ :: second :: others,
        List.cons_ne_nil _ _, ?_, rfl, ?_⟩
      · exact List.forall_mem_cons.2 ⟨denotes, denote⟩
      · rw [split, same]
        simp [join, Spaced.written]
    · cases read

theorem exists_of_memberKey {key : List CodePoint} (read : memberKey text = .ok (key, rest)) :
    ∃ keyText between gap, WritesString keyText key ∧ IsBlank between ∧ IsBlank gap ∧
      text = keyText ++ (between ++ ':' :: (gap ++ rest)) := by
  unfold memberKey at read
  split at read
  · rename_i behind
    rcases Except.bind_eq_ok_iff.1 read with ⟨⟨points, behindKey⟩, readKey, readColon⟩
    dsimp only at readColon
    split at readColon
    · rename_i behindColon colon
      cases readColon
      rcases writesString_of_readString readKey with ⟨keyText, isString, split⟩
      rcases exists_of_afterBlanks colon with ⟨between, blankBetween, rfl⟩
      rcases exists_blank behindColon with ⟨gap, blank, splitGap⟩
      refine ⟨keyText, between, gap, isString, blankBetween, blank, ?_⟩
      rw [split, ← splitGap]
    · cases readColon
  · cases read

theorem takes_members_succ {found : List (List CodePoint × Json)}
    (ofValue : ∀ {text json rest}, value limit? steps text = .ok (json, rest) →
      Takes limit? text json rest)
    (ofMembers : ∀ {text found rest}, members limit? steps text = .ok (found, rest) →
      TakesMembers limit? text found rest)
    (read : members limit? (steps + 1) text = .ok (found, rest)) :
    TakesMembers limit? text found rest := by
  intro gap blank
  unfold members at read
  split at read
  · cases read
  · rename_i key behindKey readKey
    rcases exists_of_memberKey readKey with
      ⟨keyText, between, before, isString, blankBetween, blankBefore, rfl⟩
    split at read
    · cases read
    · rename_i first behind readFirst
      rcases ofValue readFirst with ⟨written, denotes, rfl⟩
      split at read
      · rename_i closed
        cases read
        rcases exists_of_afterBlanks closed with ⟨after, blankAfter, rfl⟩
        let item : Spaced := ⟨before, written, after, first, blankBefore, blankAfter⟩
        refine ⟨[⟨gap, keyText, between, key, item, blank, blankBetween⟩], List.cons_ne_nil _ _, ?_,
          ?_, rfl, ?_⟩
        · exact List.forall_mem_singleton.2 isString
        · exact List.forall_mem_singleton.2 denotes
        · simp [join, Member.written, Spaced.written, item]
      · rename_i behindComma parted
        rcases exists_of_map_eq_ok ((key, first) :: ·) read with ⟨more, readMore, rfl⟩
        rcases exists_of_afterBlanks parted with ⟨after, blankAfter, rfl⟩
        rcases exists_blank behindComma with ⟨opening, blankOpening, split⟩
        rcases ofMembers readMore opening blankOpening with
          ⟨others, nonempty, named, denote, rfl, same⟩
        rcases List.exists_cons_of_ne_nil nonempty with ⟨second, others, rfl⟩
        let item : Spaced := ⟨before, written, after, first, blankBefore, blankAfter⟩
        refine ⟨⟨gap, keyText, between, key, item, blank, blankBetween⟩ :: second :: others,
          List.cons_ne_nil _ _,
          ?_, ?_, rfl, ?_⟩
        · exact List.forall_mem_cons.2 ⟨isString, named⟩
        · exact List.forall_mem_cons.2 ⟨denotes, denote⟩
        · rw [split, same]
          simp [join, Member.written, Spaced.written, item]
      · cases read

end step

/-- What is read in some steps denotes what it is read as, since what is read in the steps below
does. -/
theorem takes_of_steps (steps : Nat) :
    (∀ {text json rest}, value limit? steps text = .ok (json, rest) → Takes limit? text json rest) ∧
    (∀ {text found rest}, items limit? steps text = .ok (found, rest) →
      TakesItems limit? text found rest) ∧
    ∀ {text found rest}, members limit? steps text = .ok (found, rest) →
    TakesMembers limit? text found rest := by
  induction steps with
  | zero =>
    refine ⟨fun read => ?_, fun read => ?_, fun read => ?_⟩
    · rw [value] at read
      cases read
    · rw [items] at read
      cases read
    · rw [members] at read
      cases read
  | succ steps ih =>
    rcases ih with ⟨ofValue, ofItems, ofMembers⟩
    exact ⟨takes_value_succ ofItems ofMembers, takes_items_succ ofValue ofItems,
      takes_members_succ ofValue ofMembers⟩

/-! ### Whole texts -/

theorem parse_of_isTextOf {text : List Char} {json : Json} (isText : IsTextOf limit? text json) :
    parse limit? text = .ok json := by
  rcases isText with ⟨item, denotes, rfl, rfl⟩
  have reads := denotes.readsAs
  have noMark : item.written.head? ≠ some '\ufeff' := by
    rcases reads.head with ⟨first, more, isFirst, _, _, noMark⟩
    rw [Spaced.written, isFirst]
    cases before : item.before with
    | nil => simpa using noMark
    | cons char others =>
      have blank := item.blankBefore char (by rw [before]; exact List.mem_cons_self)
      intro isMark
      rw [List.cons_append, List.head?_cons, Option.some.injEq] at isMark
      rw [isMark] at blank
      exact absurd blank (by decide)
  have skipped := afterBlanks_spaced reads []
  rw [List.append_nil, List.append_nil] at skipped
  have enough : 2 * item.text.length ≤ 2 * item.written.length + 2 := by
    simp only [Spaced.written, List.length_append]
    omega
  have ends : EndsNumber (item.after ++ []) := endsNumber_append item.blankAfter (ends_nil _)
  rw [List.append_nil] at ends
  have isEnd := afterBlanks_append item.blankAfter []
  rw [List.append_nil] at isEnd
  rw [parse, if_neg noMark, skipped, reads _ _ enough ends]
  simp only [isEnd]
  rfl

theorem isTextOf_of_parse {text : List Char} {json : Json} (read : parse limit? text = .ok json) :
    IsTextOf limit? text json := by
  unfold parse at read
  split at read
  · cases read
  · split at read
    · cases read
    · rename_i found behind readValue
      split at read
      · rename_i isEnd
        cases read
        rcases (takes_of_steps _).1 readValue with ⟨written, denotes, split⟩
        rcases exists_blank text with ⟨before, blankBefore, splitBefore⟩
        rcases exists_of_afterBlanks isEnd with ⟨after, blankAfter, rfl⟩
        refine ⟨⟨before, written, after, json, blankBefore, blankAfter⟩, denotes, ?_, rfl⟩
        rw [splitBefore, split, List.append_nil]
        rfl
      · cases read

/-- A text is read as a value if and only if it is a text of the value. -/
theorem parse_eq_ok_iff {text : List Char} {json : Json} : parse limit? text = .ok json ↔
    IsTextOf limit? text json :=
  ⟨isTextOf_of_parse, parse_of_isTextOf⟩

end Schemagram.Json
