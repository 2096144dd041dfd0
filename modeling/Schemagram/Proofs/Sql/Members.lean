import Schemagram.Proofs.Scan.Parts
import Schemagram.Proofs.Sql.RoundTrip

/-!
# The members of an enum and its values

The statement of an enum quotes its members, and the list of them is cut at every comma, also at one
between quotes.  So a member without a comma is a value as it is written, whatever else it holds,
while a member with commas gives a value for each piece between them: without the white space at the
cuts, and without the pieces that are empty.
-/

namespace Schemagram.Sql

open Text Writing
open Scan hiding keyword mark
open Language (append_mem_mul)

variable {text : List Char}

/-! ### Pieces of a member -/

/-- The pieces of a member behind its first comma; the last one ends at the quote. -/
def piecesBehind : List (List Char) → List (List Char)
  | [] => []
  | [last] => [last.dropWhile isSpace]
  | piece :: more => trim piece :: piecesBehind more

/-- The pieces between the commas of a member; the first one begins at the quote. -/
def piecesOf (member : List Char) : List (List Char) :=
  match splitOn ',' member with
  | [] => []
  | [whole] => [whole]
  | first :: more => dropEndWhile isSpace first :: piecesBehind more

/-- The values that a member gives. -/
def valuesOf (member : String) : List String :=
  ((piecesOf member.toList).filter (!·.isEmpty)).map String.ofList

theorem valuesOf_eq_singleton {member : String} (nonempty : member ≠ "")
    (noComma : ',' ∉ member.toList) :
    valuesOf member = [member] := by
  rw [valuesOf, piecesOf, splitOn_of_not_mem noComma]
  simp [nonempty]

/-! ### Pieces without a quote are read -/

variable {piece before after : List Char}

/-- The piece up to the first comma of a member. -/
theorem unquoteMember_first (isBefore : before ∈ blanks) (noQuote : '\'' ∉ piece) :
    unquoteMember (before ++ '\'' :: piece) = dropEndWhile isSpace piece := by
  have trimmed : trim (before ++ '\'' :: piece) = '\'' :: dropEndWhile isSpace piece := by
    rw [trim_spaces_append isBefore, trim, List.dropWhile_cons_of_neg (by decide), dropEndWhile]
    split
    · rename_i isEmpty
      rw [isEmpty]
      rfl
    · rfl
  simp only [unquoteMember, trimmed, List.head?_cons, if_true, List.drop_one, List.tail_cons]
  rw [if_neg]
  intro last
  exact noQuote ((dropEndWhile_isPart isSpace piece).subset (List.mem_of_getLast? last))

/-- The piece behind the last comma of a member. -/
theorem unquoteMember_last (isAfter : after ∈ blanks) (noQuote : '\'' ∉ piece) :
    unquoteMember (piece ++ '\'' :: after) = piece.dropWhile isSpace := by
  have front : (piece ++ ['\'']).dropWhile isSpace = piece.dropWhile isSpace ++ ['\''] := by
    rw [List.dropWhile_append]
    split
    · rename_i isEmpty
      rw [List.isEmpty_iff.1 isEmpty]
      rfl
    · rfl
  have trimmed : trim (piece ++ '\'' :: after) = piece.dropWhile isSpace ++ ['\''] := by
    rw [List.append_cons, trim_append_spaces isAfter, trim, front,
      dropEndWhile_of_getLast? (by simp [isSpace])]
  have absent : '\'' ∉ piece.dropWhile isSpace :=
    fun mem => noQuote ((List.dropWhile_suffix isSpace).subset mem)
  rw [unquoteMember, trimmed]
  cases kept : piece.dropWhile isSpace with
  | nil => rfl
  | cons char more =>
    rw [kept, List.mem_cons, not_or] at absent
    have notFirst : (char :: more ++ ['\'']).head? ≠ some '\'' := by simpa using Ne.symm absent.1
    have isLast : (char :: more ++ ['\'']).getLast? = some '\'' := List.getLast?_concat
    simp only [if_neg notFirst, if_pos isLast, List.dropLast_concat]

/-- A piece between two commas of a member. -/
theorem unquoteMember_between (noQuote : '\'' ∉ piece) : unquoteMember piece = trim piece := by
  have absent : '\'' ∉ trim piece := fun mem => noQuote ((trim_isPart piece).subset mem)
  have notFirst : (trim piece).head? ≠ some '\'' := fun first => absent (List.mem_of_head? first)
  have notLast : (trim piece).getLast? ≠ some '\'' := fun last => absent (List.mem_of_getLast? last)
  simp only [unquoteMember, if_neg notFirst, if_neg notLast]

/-! ### Members are cut -/

theorem map_unquote_behind {pieces : List (List Char)} (nonempty : pieces ≠ [])
    (plain : ∀ piece ∈ pieces, ',' ∉ piece ∧ '\'' ∉ piece) (isAfter : after ∈ blanks) :
    (splitOn ',' (join [','] pieces ++ '\'' :: after)).map unquoteMember = piecesBehind pieces := by
  induction pieces with
  | nil => exact absurd rfl nonempty
  | cons first more ih =>
    have isFirst := plain first List.mem_cons_self
    cases more with
    | nil =>
      have noComma : ',' ∉ first ++ '\'' :: after := by
        simp [isFirst.1, comma_not_mem_blanks isAfter]
      rw [join, splitOn_of_not_mem noComma, List.map_singleton,
        unquoteMember_last isAfter isFirst.2, piecesBehind]
    | cons second more =>
      have others := ih (by simp) fun piece mem => plain piece (List.mem_cons_of_mem first mem)
      have cut : join [','] (first :: second :: more) ++ '\'' :: after =
          first ++ ',' :: (join [','] (second :: more) ++ '\'' :: after) := by simp [join]
      rw [cut, splitOn_append_cons isFirst.1, List.map_cons, others,
        unquoteMember_between isFirst.2]
      rfl

/-- A written member is cut into its pieces, whatever white space stands around it. -/
theorem map_unquote_member {member : String} (noQuote : '\'' ∉ member.toList)
    (isBefore : before ∈ blanks) (written : text ∈ writtenMember member)
    (isAfter : after ∈ blanks) :
    (splitOn ',' (before ++ text ++ after)).map unquoteMember = piecesOf member.toList := by
  have whole := join_splitOn ',' member.toList
  have plain : ∀ piece ∈ splitOn ',' member.toList, ',' ∉ piece ∧ '\'' ∉ piece := fun piece mem =>
    ⟨not_mem_of_mem_splitOn mem, fun isQuote => noQuote (mem_of_mem_splitOn mem isQuote)⟩
  have readWhole := unquoteMember_written isBefore written isAfter
  cases written
  rw [piecesOf]
  cases pieces : splitOn ',' member.toList with
  | nil => exact absurd pieces (splitOn_ne_nil ',' member.toList)
  | cons first more =>
    rw [pieces] at whole plain
    have isFirst := plain first List.mem_cons_self
    cases more with
    | nil =>
      have same : first = member.toList := whole
      have noComma : ',' ∉ before ++ ('\'' :: member.toList ++ ['\'']) ++ after := by
        simp [comma_not_mem_blanks isBefore, comma_not_mem_blanks isAfter, ← same, isFirst.1]
      rw [splitOn_of_not_mem noComma, List.map_singleton, readWhole, same]
    | cons second more =>
      have others := map_unquote_behind (List.cons_ne_nil second more)
        (fun piece mem => plain piece (List.mem_cons_of_mem first mem)) isAfter
      have cut : before ++ ('\'' :: member.toList ++ ['\'']) ++ after =
          (before ++ '\'' :: first) ++ ',' :: (join [','] (second :: more) ++ '\'' :: after) := by
        rw [← whole]
        simp [join]
      have noComma : ',' ∉ before ++ '\'' :: first := by
        simp [comma_not_mem_blanks isBefore, isFirst.1]
      rw [cut, splitOn_append_cons noComma, List.map_cons, others,
        unquoteMember_first isBefore isFirst.2]

/-- A list is cut into the pieces of its members. -/
theorem map_unquote_listed {members : List String}
    (noQuotes : ∀ member ∈ members, '\'' ∉ member.toList)
    (written : text ∈ listed (members.map writtenMember)) :
    (splitOn ',' text).map unquoteMember = members.flatMap fun member =>
      piecesOf member.toList := by
  induction members generalizing text with
  | nil => cases written
  | cons first more ih =>
    have noQuote := noQuotes first List.mem_cons_self
    cases more with
    | nil =>
      rcases Language.mem_mul.1 written with ⟨before, isBefore, _, inner, rfl⟩
      rcases Language.mem_mul.1 inner with ⟨member, isMember, after, isAfter, rfl⟩
      rw [← List.append_assoc, map_unquote_member noQuote isBefore isMember isAfter]
      simp
    | cons second more =>
      rw [List.map_cons, List.map_cons, listed_cons_cons] at written
      rcases Language.mem_mul.1 written with ⟨before, isBefore, _, inner, rfl⟩
      rcases Language.mem_mul.1 inner with ⟨member, isMember, _, behindMember, rfl⟩
      rcases Language.mem_mul.1 behindMember with ⟨after, isAfter, _, behindGap, rfl⟩
      rcases Language.mem_mul.1 behindGap with ⟨_, rfl, others, isOthers, rfl⟩
      have cut : before ++ (member ++ (after ++ ([','] ++ others))) = (before ++ member ++ after) ++
          ',' :: others := by
        simp
      have readOthers :=
        ih (fun other mem => noQuotes other (List.mem_cons_of_mem first mem)) isOthers
      rw [cut, splitOn_append, List.map_append,
        map_unquote_member noQuote isBefore isMember isAfter, readOthers]
      rfl

theorem membersOf_listed {members : List String}
    (noQuotes : ∀ member ∈ members, '\'' ∉ member.toList)
    (written : text ∈ listed (members.map writtenMember)) :
    membersOf text = members.flatMap valuesOf := by
  rw [membersOf, map_unquote_listed noQuotes written, List.filter_flatMap, List.map_flatMap]
  rfl

/-! ### Statements -/

/-- The statement of an enum maps its name to the values of its members in their order.  Members
without a comma are values as they are. -/
theorem enums_statement {name : String} {members : List String} (named : IsWord name.toList)
    (areTexts : ∀ member ∈ members, member ≠ "" ∧ '\'' ∉ member.toList)
    (written : text ∈ writtenEnumList name members) :
    enums text = [(name, members.flatMap valuesOf)] ∧
      ((∀ member ∈ members, ',' ∉ member.toList) → enums text = [(name, members)]) := by
  have noQuotes : ∀ member ∈ members, '\'' ∉ member.toList :=
    fun member mem => (areTexts member mem).2
  have read : enums text = [(name, members.flatMap valuesOf)] := by
    rcases enumStatement_list named noQuotes written with ⟨core, isCore, read⟩
    have readText := read []
    rw [List.append_nil] at readText
    have nonempty : text ≠ [] := by
      rintro rfl
      cases readText
    rw [enums, all_of_some readText (List.length_pos_of_ne_nil nonempty), all]
    change Keyed.ofPairs [(name, membersOf core)] = _
    rw [membersOf_listed noQuotes (mem_listed_of_joined isCore)]
    rfl
  refine ⟨read, fun noCommas => ?_⟩
  have same : members.flatMap valuesOf = members := by
    rw [List.flatMap_congr fun member mem => valuesOf_eq_singleton (areTexts member mem).1
      (noCommas member mem)]
    simp
  rw [read, same]

/-- A statement of an enum. -/
def enumListText (name : String) (members : List String) : List Char :=
  "CREATE".toList ++
    ([' '] ++ ("TYPE".toList ++ ([' '] ++ (name.toList ++ ([' '] ++ ("AS".toList ++ ([' '] ++
    ("ENUM".toList ++ ([' '] ++ (['('] ++ (join [','] (members.map memberText) ++ [')'])))))))))))

theorem enumListText_mem (name : String) {members : List String} (nonempty : members ≠ []) :
    enumListText name members ∈ writtenEnumList name members := by
  have list : join [','] (members.map memberText) ∈ listed (members.map writtenMember) :=
    join_mem_listed nonempty fun _ _ => rfl
  have body := append_mem_mul (singleton_mem_mark '(')
    (append_mem_mul list (singleton_mem_mark ')'))
  have typed := append_mem_mul (toList_mem_keyword "AS") (append_mem_mul space_mem_blank
    (append_mem_mul (toList_mem_keyword "ENUM") (append_mem_mul space_mem_blanks body)))
  have named := append_mem_mul (toList_mem_exactly name) (append_mem_mul space_mem_blank typed)
  exact append_mem_mul (toList_mem_keyword "CREATE") (append_mem_mul space_mem_blank
    (append_mem_mul (toList_mem_keyword "TYPE") (append_mem_mul space_mem_blank named)))

/-- A member with white space in it, and one with commas. -/
theorem enums_statement_commas :
    enums "CREATE TYPE mood AS ENUM ('so ; so',' a) , ,b ')".toList =
    [("mood", ["so ; so", " a)", "b "])] := by
  have areTexts : ∀ member ∈ ["so ; so", " a) , ,b "], member ≠ "" ∧ '\'' ∉ member.toList := by
    decide
  have values : ["so ; so", " a) , ,b "].flatMap valuesOf = ["so ; so", " a)", "b "] := by
    decide +kernel
  rw [← values]
  exact (enums_statement ⟨by decide, by decide⟩ areTexts (enumListText_mem "mood" (by simp))).1

/-- A member with a comma is no value. -/
theorem enums_of_comma :
    ¬ ∀ (name : String) (members : List String) (text : List Char), IsWord name.toList →
    members ≠ [] →
      (∀ member ∈ members, member ≠ "" ∧ '\'' ∉ member.toList) →
      text ∈ writtenEnumList name members →
        enums text = [(name, members)] := by
  intro agrees
  have read := agrees "e" ["a,b"] _ ⟨by decide, by decide⟩ (by decide) (by decide)
    (enumListText_mem "e" (by decide))
  have cut : enums (enumListText "e" ["a,b"]) = [("e", ["a", "b"])] := by decide +kernel
  rw [cut] at read
  exact absurd read (by decide)

end Schemagram.Sql
