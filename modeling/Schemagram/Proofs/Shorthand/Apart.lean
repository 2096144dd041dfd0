import Mathlib.Data.List.Flatten
import Schemagram.Proofs.Dialect.Order
import Schemagram.Proofs.Shorthand.Arrows
import Schemagram.Proofs.Tables.Balance

/-!
# Every key has an arrow of its own

A key is read off an arrow: behind it stands the column that the arrow points to or comes from.
Keys are written apart in a text if no two of them are read off the same arrow.  Texts that stand
one behind the other, the lines of a block and the finds of a scan keep their keys apart, so that
only the two passes over a text can meet at one arrow: the one over the lines of each table, and the
one over everything.

Cut at the braces of its tables, a text shows where that happens.  Both passes take an arrow only
between the braces of a table, and there the first takes `>` only, while the second needs a dotted
column on both sides.
-/

namespace Schemagram.Shorthand

open Text Writing Blocks
open Scan hiding keyword mark

/-! ### Items at places of their own -/

section Places

variable {Item : Type} {fits otherFits : Item → Nat → Prop} {items more : List Item}

/-- Each item has a place that fits it, and no two of them have the same one. -/
def HavePlaces (fits : Item → Nat → Prop) (items : List Item) : Prop :=
  ∃ placed : List (Item × Nat), items.Perm (placed.map Prod.fst) ∧ (placed.map Prod.snd).Nodup ∧
    ∀ pair ∈ placed, fits pair.1 pair.2

namespace HavePlaces

theorem nil (fits : Item → Nat → Prop) : HavePlaces fits [] := ⟨[], .nil, List.nodup_nil, by simp⟩

theorem singleton {item : Item} {place : Nat} (fit : fits item place) : HavePlaces fits [item] :=
  ⟨[(item, place)], .refl _, List.nodup_singleton place, by simpa using fit⟩

theorem perm (placed : HavePlaces fits items) (perm : items.Perm more) : HavePlaces fits more := by
  rcases placed with ⟨placed, areItems, rest⟩
  exact ⟨placed, perm.symm.trans areItems, rest⟩

theorem sublist (placed : HavePlaces fits more) (fewer : items.Sublist more) :
    HavePlaces fits items := by
  rcases placed with ⟨placed, areItems, distinct, fit⟩
  rcases List.exists_perm_sublist fewer areItems with ⟨_, perm, isPart⟩
  rcases List.sublist_map_iff.1 isPart with ⟨part, inPlaced, rfl⟩
  exact ⟨part, perm.symm, (inPlaced.map Prod.snd).nodup distinct, fun pair mem =>
    fit pair (inPlaced.subset mem)⟩

theorem mono (placed : HavePlaces fits items)
    (weaker : ∀ item place, fits item place → otherFits item place) :
    HavePlaces otherFits items := by
  rcases placed with ⟨placed, areItems, distinct, fit⟩
  exact ⟨placed, areItems, distinct, fun pair mem => weaker _ _ (fit pair mem)⟩

/-- Places may be moved by a distance. -/
theorem move (placed : HavePlaces fits items) (distance : Nat) :
    HavePlaces (fun item place => ∃ old, place = old + distance ∧ fits item old) items := by
  rcases placed with ⟨placed, areItems, distinct, fit⟩
  refine ⟨placed.map fun pair => (pair.1, pair.2 + distance), ?_, ?_, ?_⟩
  · rwa [List.map_map]
  · have moved := distinct.map fun _ _ => Nat.add_right_cancel (m := distance)
    rwa [List.map_map] at moved ⊢
  · intro pair mem
    rcases List.mem_map.1 mem with ⟨old, memOld, rfl⟩
    exact ⟨old.2, rfl, fit old memOld⟩

/-- Items that fit at different places have places of their own together. -/
theorem append (isFirst : HavePlaces fits items) (isSecond : HavePlaces otherFits more)
    (differ : ∀ item other place, fits item place → ¬otherFits other place) :
    HavePlaces (fun item place => fits item place ∨ otherFits item place) (items ++ more) := by
  rcases isFirst with ⟨placed, areItems, distinct, fit⟩
  rcases isSecond with ⟨otherPlaced, areOthers, otherDistinct, otherFit⟩
  refine ⟨placed ++ otherPlaced, ?_, ?_, fun pair mem => ?_⟩
  · rw [List.map_append]
    exact areItems.append areOthers
  · rw [List.map_append, List.nodup_append]
    refine ⟨distinct, otherDistinct, ?_⟩
    rintro place mem _ memOther rfl
    rcases List.mem_map.1 mem with ⟨pair, memPair, rfl⟩
    rcases List.mem_map.1 memOther with ⟨otherPair, memOtherPair, samePlace⟩
    exact differ _ _ _ (fit pair memPair) (samePlace ▸ otherFit otherPair memOtherPair)
  · exact (List.mem_append.1 mem).imp (fit pair) (otherFit pair)

/-- There are no more items than places that may fit. -/
theorem length_le (placed : HavePlaces fits items) {places : List Nat}
    (within : ∀ item place, fits item place → place ∈ places) : items.length ≤ places.length := by
  rcases placed with ⟨placed, areItems, distinct, fit⟩
  have subset : placed.map Prod.snd ⊆ places := by
    intro place mem
    rcases List.mem_map.1 mem with ⟨pair, memPair, rfl⟩
    exact within _ _ (fit pair memPair)
  have bounded := (List.subperm_of_subset distinct subset).length_le
  rwa [List.length_map, ← List.length_map Prod.fst, ← areItems.length_eq] at bounded

end HavePlaces

end Places

/-! ### Keys at their arrows -/

/-- The column behind the arrow of a key: `>` points to the column that is referred to, and `<`
comes from the column that refers. -/
def farText (arrow : Char) (owned : String × ForeignKey) : List Char :=
  if arrow = '>' then dottedText owned.2.referenceTable owned.2.referenceColumn
  else dottedText owned.1 owned.2.column

/-- A key with its owner is read off the arrow at a place of a text.  Places are counted from the
end of the text. -/
def IsReadAt (arrow : Char) (text : List Char) (owned : String × ForeignKey) (place : Nat) : Prop :=
  ∃ before gap after, text = before ++ arrow :: (gap ++ (farText arrow owned ++ after)) ∧
    gap ∈ blanks ∧
    place = (gap ++ (farText arrow owned ++ after)).length

/-- Keys are written apart: each of them is read off an arrow, which is one of some kinds, and no
two of them off the same one. -/
def Apart (kinds : List Char) (text : List Char) (keys : List (String × ForeignKey)) : Prop :=
  HavePlaces (fun owned place => ∃ arrow ∈ kinds, IsReadAt arrow text owned place) keys

variable {arrow : Char} {text : List Char}

namespace IsReadAt

variable {other : Char} {owned more : String × ForeignKey} {place : Nat}

theorem exists_cut (read : IsReadAt arrow text owned place) :
    ∃ before after, text = before ++ arrow :: after ∧ place = after.length := by
  rcases read with ⟨before, gap, after, split, _, isPlace⟩
  exact ⟨before, _, split, isPlace⟩

theorem lt (read : IsReadAt arrow text owned place) : place < text.length := by
  rcases read.exists_cut with ⟨before, after, rfl, rfl⟩
  simp only [List.length_append, List.length_cons]
  omega

theorem within (read : IsReadAt arrow text owned place) (first second : List Char) :
    IsReadAt arrow (first ++ (text ++ second)) owned (place + second.length) := by
  rcases read with ⟨before, gap, after, rfl, isGap, rfl⟩
  refine ⟨first ++ before, gap, after ++ second, by simp, isGap, ?_⟩
  simp only [List.length_append]
  omega

/-- There is one arrow at a place. -/
theorem arrow_eq (read : IsReadAt arrow text owned place)
    (readOther : IsReadAt other text more place) :
    arrow = other := by
  rcases read.exists_cut with ⟨before, after, rfl, rfl⟩
  rcases readOther.exists_cut with ⟨otherBefore, otherAfter, split, sameLength⟩
  exact (List.cons.inj (List.append_inj_right' split (by simp [sameLength]))).1

end IsReadAt

namespace Apart

variable {kinds others : List Char} {first second : List Char}
  {keys more : List (String × ForeignKey)}

theorem nil (kinds text : List Char) : Apart kinds text [] := HavePlaces.nil _

theorem singleton {owned : String × ForeignKey} {place : Nat} (isKind : arrow ∈ kinds)
    (read : IsReadAt arrow text owned place) : Apart kinds text [owned] :=
  HavePlaces.singleton ⟨arrow, isKind, read⟩

/-- Keys that are written apart in two texts are written apart in the one behind the other. -/
theorem append (isFirst : Apart kinds first keys) (isSecond : Apart kinds second more) :
    Apart kinds (first ++ second) (keys ++ more) := by
  refine ((isFirst.move second.length).append isSecond ?_).mono ?_
  -- The places of the first text come behind those of the second one.
  · rintro _ _ _ ⟨old, rfl, _⟩ ⟨_, _, read⟩
    have inside := read.lt
    omega
  · rintro owned _ (⟨old, rfl, arrow, isKind, read⟩ | ⟨arrow, isKind, read⟩)
    · exact ⟨arrow, isKind, read.within [] second⟩
    · have within := read.within first []
      rw [List.append_nil] at within
      exact ⟨arrow, isKind, within⟩

/-- Keys that are read off different kinds of arrows are apart. -/
theorem append_kinds (disjoint : kinds.Disjoint others) (isFirst : Apart kinds text keys)
    (isSecond : Apart others text more) : Apart (kinds ++ others) text (keys ++ more) := by
  refine (HavePlaces.append isFirst isSecond ?_).mono ?_
  · rintro _ _ _ ⟨arrow, isKind, read⟩ ⟨other, isOther, readOther⟩
    rw [read.arrow_eq readOther] at isKind
    exact disjoint isKind isOther
  · rintro owned place (⟨arrow, isKind, read⟩ | ⟨arrow, isKind, read⟩)
    · exact ⟨arrow, List.mem_append_left others isKind, read⟩
    · exact ⟨arrow, List.mem_append_right kinds isKind, read⟩

theorem more_kinds (apart : Apart kinds text keys) (subset : kinds ⊆ others) :
    Apart others text keys :=
  HavePlaces.mono apart fun _ _ ⟨arrow, isKind, read⟩ => ⟨arrow, subset isKind, read⟩

theorem cons (apart : Apart kinds text keys) (mark : Char) : Apart kinds (mark :: text) keys :=
  (nil kinds [mark]).append apart

/-- What is read apart from pieces is read apart from the text that is cut into them. -/
theorem splitOn {keysOf : List Char → List (String × ForeignKey)}
    (apart : ∀ piece, Apart kinds piece (keysOf piece)) (separator : Char) (text : List Char) :
    Apart kinds text ((Text.splitOn separator text).flatMap keysOf) := by
  have joined (pieces : List (List Char)) :
      Apart kinds (join [separator] pieces) (pieces.flatMap keysOf) := by
    induction pieces with
    | nil => exact nil kinds []
    | cons first more ih =>
      cases more with
      | nil => simpa [join] using apart first
      | cons second more =>
        rw [join, List.append_assoc, List.flatMap_cons]
        · exact (apart first).append (ih.cons separator)
        · simp
  have whole := joined (Text.splitOn separator text)
  rwa [join_splitOn] at whole

end Apart

/-- The places of the characters of some kinds. -/
def placesOf (kinds : List Char) : List Char → List Nat
  | [] => []
  | char :: rest => if char ∈ kinds then rest.length :: placesOf kinds rest else placesOf kinds rest

theorem length_placesOf (kinds text : List Char) :
    (placesOf kinds text).length = text.countP (· ∈ kinds) := by
  induction text with
  | nil => rfl
  | cons char rest ih =>
    rw [placesOf, List.countP_cons]
    split <;> simp_all

theorem mem_placesOf {kinds : List Char} (isKind : arrow ∈ kinds) (before after : List Char) :
    after.length ∈ placesOf kinds (before ++ arrow :: after) := by
  induction before with
  | nil => simp [placesOf, isKind]
  | cons char more ih =>
    rw [List.cons_append, placesOf]
    split
    · exact List.mem_cons_of_mem _ ih
    · exact ih

theorem Apart.length_le {kinds : List Char} {keys : List (String × ForeignKey)}
    (apart : Apart kinds text keys) :
    keys.length ≤ text.countP (· ∈ kinds) := by
  rw [← length_placesOf]
  refine HavePlaces.length_le apart fun owned place ⟨arrow, isKind, read⟩ => ?_
  rcases read.exists_cut with ⟨before, after, rfl, rfl⟩
  exact mem_placesOf isKind before after

/-! ### What is read off the arrow of a reference -/

section Reading

variable {rest line : List Char}

theorem dotted_eq_some {path : String × String} (read : dotted text = some (path, rest)) :
    text = dottedText path.1 path.2 ++ rest := by
  simp only [dotted, bind_eq_some, pure_eq_some] at read
  rcases read with ⟨_, _, readTable, _, _, readDot, _, _, readColumn, rfl, rfl⟩
  rcases word_eq_some.1 readTable with ⟨rfl, _, _⟩
  rcases word_eq_some.1 readColumn with ⟨rfl, _, _⟩
  rw [mark_eq_some.1 readDot]
  simp [dottedText]

theorem target_eq_some {found : Target} (read : target text = some (found, rest)) : ∃ before gap,
    text = before ++ found.arrow :: (gap ++ (dottedText found.table found.column ++ rest)) ∧
    gap ∈ blanks := by
  simp only [target, bind_eq_some, pure_eq_some] at read
  rcases read with ⟨_, _, readBefore, _, _, readArrow, _, _, readGap, _, _, readPath, rfl, rfl⟩
  rcases spaces_eq_some.1 readBefore with ⟨before, rfl, _⟩
  rcases spaces_eq_some.1 readGap with ⟨gap, rfl, isGap, _⟩
  rw [(arrow_eq_some readArrow).1, dotted_eq_some readPath]
  exact ⟨before, gap, rfl, isGap⟩

/-- The key of a reference, with the table that refers. -/
def Reference.owned (found : Reference) : String × ForeignKey := (found.source.1, found.key)

/-- A reference is a key that is read off its arrow. -/
theorem isReadAt_of_reference {found : Reference} (read : reference text = some (found, rest)) :
    found.arrow ∈ arrows ∧ ∃ part place, text = part ++ rest ∧
      IsReadAt found.arrow part found.owned place := by
  simp only [reference, bind_eq_some, pure_eq_some] at read
  rcases read with ⟨_, _, readWord, _, _, readBefore, left, _, readLeft, _, _, readGap, sign,
    _, readArrow,
    _, _, readBetween, right, _, readRight, rfl, rfl⟩
  rcases introduction_eq_some readWord with ⟨word, rfl, _⟩
  rcases spaces_eq_some.1 readBefore with ⟨before, rfl, _⟩
  rcases spaces_eq_some.1 readGap with ⟨gap, isGap, _⟩
  rcases arrow_eq_some readArrow with ⟨isSign, isArrow⟩
  rcases spaces_eq_some.1 readBetween with ⟨between, isBetween, areSpaces, _⟩
  have isFar : farText sign (⟨left, sign, right⟩ : Reference).owned =
      dottedText right.1 right.2 := by
    simp only [farText, Reference.owned, Reference.key, Reference.source, Reference.target]
    split <;> rfl
  refine ⟨isArrow,
    word ++ (before ++
      (dottedText left.1 left.2 ++ (gap ++ sign :: (between ++ dottedText right.1 right.2)))), _,
      ?_,
    word ++ (before ++ (dottedText left.1 left.2 ++ gap)), between, [], ?_, areSpaces, rfl⟩
  · rw [dotted_eq_some readLeft, isGap, isSign, isBetween, dotted_eq_some readRight]
    simp
  · rw [isFar]
    simp

/-- What is found everywhere is read apart. -/
theorem apart_references {kinds : List Char}
    (areKinds : ∀ found ∈ all reference text, found.arrow ∈ kinds) :
    Apart kinds text ((all reference text).map Reference.owned) := by
  fun_induction all reference text with
  | case1 => exact Apart.nil kinds []
  | case2 char text found rest read ih =>
    rcases isReadAt_of_reference read with ⟨_, part, place, split, isRead⟩
    have nonempty := Nat.zero_lt_of_lt isRead.lt
    have lengths := congrArg List.length split
    rw [List.length_append, List.length_cons] at lengths
    have shorter : rest.length ≤ text.length := by omega
    simp only [dif_pos shorter, if_pos shorter] at ih areKinds ⊢
    rw [split]
    exact (Apart.singleton (areKinds found List.mem_cons_self) isRead).append
      (ih fun other mem => areKinds other (List.mem_cons_of_mem found mem))
  | case3 char text failed ih => exact (ih areKinds).cons char

theorem exists_target_of_inlineReference {found : String × Target}
    (read : inlineReference text = some (found, rest)) :
    ∃ suffix, suffix <:+ text ∧ target suffix = some (found.2, rest) := by
  simp only [inlineReference, bind_eq_some, pure_eq_some] at read
  rcases read with ⟨_, _, readWord, _, _, readBefore, name, suffix, readName, _, _,
    readTarget, rfl, rfl⟩
  rcases introduction_eq_some readWord with ⟨word, rfl, _⟩
  rcases spaces_eq_some.1 readBefore with ⟨before, rfl, _⟩
  rcases word_eq_some.1 readName with ⟨rfl, _, _⟩
  exact ⟨suffix, ⟨word ++ (before ++ name.toList), by simp⟩, readTarget⟩

theorem exists_target_of_optionReference {found : Target}
    (read : optionReference text = some (found, rest)) :
    ∃ suffix, suffix <:+ text ∧ target suffix = some (found, rest) := by
  simp only [optionReference, bind_eq_some, orElse_eq_some, keyword_eq_some] at read
  rcases read with ⟨_, behind, readWord, _, _, readBefore, _, suffix, readColon, readTarget⟩
  have isBehind : ∃ word, text = word ++ behind := by
    rcases readWord with ⟨word, _, split⟩ | ⟨_, word, _, split⟩
    · exact ⟨word, split⟩
    · exact ⟨word, split⟩
  rcases isBehind with ⟨word, rfl⟩
  rcases spaces_eq_some.1 readBefore with ⟨before, rfl, _⟩
  rw [mark_eq_some.1 readColon]
  exact ⟨suffix, ⟨word ++ (before ++ [':']), by simp⟩, readTarget⟩

theorem exists_target_of_lineReference {found : String × Target}
    (isReference : lineReference? line = some found) :
    ∃ suffix rest, suffix <:+ line ∧ target suffix = some (found.2, rest) := by
  rcases Option.or_eq_some_iff.1 isReference with isInline | ⟨_, isOption⟩
  · rcases exists_suffix_of_search isInline with ⟨suffix, rest, isSuffix, read⟩
    rcases exists_target_of_inlineReference read with ⟨part, isPart, readTarget⟩
    exact ⟨part, rest, isPart.trans isSuffix, readTarget⟩
  · rcases Option.bind_eq_some_iff.1 isOption with ⟨column, _, isOption⟩
    rcases Option.bind_eq_some_iff.1 isOption with ⟨found, isTarget, same⟩
    cases same
    rcases exists_suffix_of_search isTarget with ⟨suffix, rest, isSuffix, read⟩
    rcases exists_target_of_optionReference read with ⟨part, isPart, readTarget⟩
    exact ⟨part, rest, isPart.trans isSuffix, readTarget⟩

/-- The key of a line is read off an arrow `>`. -/
theorem isReadAt_of_lineKey {key : ForeignKey} (isKey : lineKey? line (column? line) = some key)
    (name : String) :
    ∃ place, IsReadAt '>' line (name, key) place := by
  rw [lineKey?_eq, Option.bind_eq_some_iff] at isKey
  rcases isKey with ⟨⟨column, found⟩, isReference, isKey⟩
  rcases exists_target_of_lineReference isReference with ⟨suffix, rest, ⟨before, rfl⟩, read⟩
  rcases target_eq_some read with ⟨between, gap, rfl, isGap⟩
  dsimp only [keyOf?] at isKey
  split at isKey
  · rename_i isRight
    cases isKey
    rw [isRight]
    exact ⟨_, before ++ between, gap, rest, by simp [farText], isGap, rfl⟩
  · cases isKey

/-- The keys on the lines of a table are read apart. -/
theorem apart_tableOf (name : String) (inside : List Char) :
    Apart ['>'] inside (tableOf name inside).ownedKeys := by
  let keysOf (line : List Char) : List (String × ForeignKey) :=
    ((lineKey? line (column? line)).map (name, ·)).toList
  have ofLine (piece : List Char) : Apart ['>'] piece (keysOf (trim piece)) := by
    cases isKey : lineKey? (trim piece) (column? (trim piece)) with
    | none => simpa [keysOf, isKey] using Apart.nil ['>'] piece
    | some key =>
      rcases isReadAt_of_lineKey isKey name with ⟨place, isRead⟩
      rcases trim_isPart piece with ⟨before, after, split⟩
      have within := isRead.within before after
      rw [← List.append_assoc, split] at within
      simpa [keysOf, isKey] using Apart.singleton List.mem_cons_self within
  refine (Apart.splitOn ofLine '\n' inside).sublist ?_
  have onLines : (tableOf name inside).ownedKeys = (linesOf inside).flatMap keysOf := by
    rw [Table.ownedKeys, tableOf, List.map_filterMap, List.filterMap_eq_flatMap_toList]
  rw [onLines, linesOf, ← List.flatMap_map trim keysOf]
  exact List.filter_sublist.flatMap keysOf

end Reading

/-! ### Cutting a text at its tables -/

/-- The first table of a text has its braces, and the others stand behind it. -/
theorem exists_of_tables_eq_cons {found : String × List Char} {more : List (String × List Char)}
    (isFound : all (block (Scan.exactly "Table")) text = found :: more) :
    ∃ front rest, text = front ++ '\x7b' :: (found.2 ++ '\x7d' :: rest) ∧
      all (block (Scan.exactly "Table")) rest = more := by
  rcases exists_of_all_eq_cons isFound with ⟨before, suffix, rest, rfl, read, others⟩
  rcases block_eq_some.1 read with ⟨opening, gap, between, rfl, _⟩
  refine ⟨before ++ (opening ++ (gap ++ (found.1.toList ++ between))), rest, by simp, others ?_⟩
  simp only [List.length_append, List.length_cons]
  omega

theorem all_reference_append {brace : Char} (isBrace : brace ∈ blockMarks) (part rest : List Char) :
    all reference (part ++ brace :: rest) = all reference part ++ all reference rest :=
  (stopsAt_reference isBrace).all_append rfl part rest

/-- The references between dotted columns that stand between the braces of a table. -/
def referencesInside (text : List Char) : List Reference :=
  (all (block (Scan.exactly "Table")) text).flatMap fun found => all reference found.2

theorem arrow_mem_of_mem_all {found : Reference} (mem : found ∈ all reference text) :
    found.arrow ∈ arrows := by
  rcases of_mem_all mem with ⟨suffix, rest, read⟩
  exact (isReadAt_of_reference read).1

/-- The keys of a text are read apart, those on the lines of its tables and those between dotted
columns, unless one of the latter stands in a table and has the arrow `>`. -/
theorem apart_tables (noneInside : ∀ found ∈ referencesInside text, found.arrow ≠ '>') :
    Apart arrows text ((tables text).flatMap Table.ownedKeys ++
      (all reference text).map Reference.owned) := by
  rw [tables, List.flatMap_map]
  unfold referencesInside at noneInside
  induction isFound : all (block (Scan.exactly "Table")) text generalizing text with
  | nil => exact apart_references fun _ => arrow_mem_of_mem_all
  | cons found more ih =>
    rcases exists_of_tables_eq_cons isFound with ⟨front, rest, rfl, isMore⟩
    rw [isFound, List.flatMap_cons, List.forall_mem_append] at noneInside
    have before : Apart arrows front _ := apart_references fun _ => arrow_mem_of_mem_all
    have between : Apart ['<'] found.2 _ := apart_references fun other mem => by
      simpa [arrows, noneInside.1 other mem] using arrow_mem_of_mem_all mem
    have inside := ((apart_tableOf found.1 found.2).append_kinds (by simp) between).more_kinds
      (by decide : _ ⊆ arrows)
    have behind := ih (isMore ▸ noneInside.2) isMore
    refine (before.append ((inside.append (behind.cons '\x7d')).cons '\x7b')).perm ?_
    rw [all_reference_append (by decide), all_reference_append (by decide), List.perm_iff_count]
    intro key
    simp only [List.flatMap_cons, List.map_append, List.count_append]
    omega

/-- Every key has an arrow of its own, and so there are no more keys than arrows, unless a reference
`>` between two dotted columns stands in a table. -/
theorem foreignKeys_apart (text : List Char)
    (noneInside : ∀ found ∈ referencesInside text, found.arrow ≠ '>') :
    Apart arrows text ((parse text).result.flatMap Table.ownedKeys) ∧
      ((parse text).result.flatMap Table.foreignKeys).length ≤ text.countP (· ∈ arrows) := by
  have areMentions : (mentions text).map Mention.owned = (tables text).flatMap Table.ownedKeys ++
      (all reference text).map Reference.owned := by
    rw [mentions, List.map_append, ← ownedKeys_tables, ← map_snd_all_withText, List.map_map,
      List.map_map]
    rfl
  have apart : Apart arrows text ((parse text).result.flatMap Table.ownedKeys) := by
    rcases balanced_parse text with ⟨kept, reported, split, keys, _⟩
    have ofMentions :=
      (apart_tables noneInside).perm (.trans (.of_eq areMentions.symm) (split.map Mention.owned))
    rw [List.map_append] at ofMentions
    exact (ofMentions.sublist (List.sublist_append_left _ _)).perm keys.symm
  have sameLength : ((parse text).result.flatMap Table.foreignKeys).length =
      ((parse text).result.flatMap Table.ownedKeys).length := by
    rw [List.length_flatMap, List.length_flatMap]
    simp [Table.ownedKeys]
  exact ⟨apart, sameLength ▸ apart.length_le⟩

/-- A text in which both passes find keys: a line of a table, and a reference `<` in another one. -/
def twoPassesText : List Char := String.toList
  "Table users \x7b\n id int\n\x7d\nTable posts \x7b\n a int [ref: > users.id]\n users.id < posts.a\n\x7d\n"

theorem foreignKeys_apart_twoPasses :
    (∀ found ∈ referencesInside twoPassesText, found.arrow ≠ '>') ∧
    Apart arrows twoPassesText ((parse twoPassesText).result.flatMap Table.ownedKeys) ∧
    ((parse twoPassesText).result.flatMap Table.foreignKeys).length = 2 ∧
    twoPassesText.countP (· ∈ arrows) = 2 := by
  have noneInside : ∀ found ∈ referencesInside twoPassesText, found.arrow ≠ '>' := by decide +kernel
  exact ⟨noneInside,
    (foreignKeys_apart twoPassesText noneInside).1, by decide +kernel, by decide +kernel⟩

/-- In a table, the arrow between two dotted columns makes a key for its line and once more for the
text. -/
theorem foreignKeys_not_apart :
    let text := "Table C \x7b\n d int\n\x7d\nTable a \x7b\n b int\n a.b > C.d\n\x7d\n".toList
    let key : ForeignKey := {
      column := "b", referenceTable := "C", referenceColumn := "d", relation? := some .oneToMany }
    text.countP (· ∈ arrows) = 1 ∧ (parse text).result.flatMap Table.ownedKeys =
    [("a", key), ("a", key)] := by
  decide +kernel

end Schemagram.Shorthand
