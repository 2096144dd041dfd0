import Schemagram.Proofs.Dialect.Detection
import Schemagram.Proofs.Sql.Pattern
import Schemagram.Proofs.Sql.Statements
import Schemagram.Proofs.Tables.Settling

/-!
# The tables of a text are found in one go

The pattern of a table statement extends the body step by step and looks for the end of the
statement behind each step.  What it finds is what a scan from left to right finds: from the
leftmost header to the first closing parenthesis after which a semicolon comes before another
closing parenthesis, and on behind that semicolon.  A header whose body does not end ends the scan,
because no later body could end either.
-/

namespace Schemagram.Sql

open Text Writing
open Scan hiding keyword mark

variable {text rest inside after : List Char} {name : String}

/-! ### Headers -/

/-- No header begins in the first of two parts of a text. -/
def NoHeader (part rest : List Char) : Prop :=
  ∀ suffix, suffix <:+ part → suffix ≠ [] → ∀ name behind, ¬ Opens (suffix ++ rest) name behind

/-! ### Bodies -/

/-- Behind the first part of a text stands a closing parenthesis, after which a semicolon comes
before another one. -/
def CanEnd (text inside after : List Char) : Prop :=
  ∃ between, text = inside ++ ')' :: (between ++ ';' :: after) ∧ ')' ∉ between ∧ ';' ∉ between

/-- The first part of a text behind which a statement can end. -/
structure IsBody (text inside after : List Char) : Prop where
  canEnd : CanEnd text inside after
  isFirst : ∀ other rest, CanEnd text other rest → inside.length ≤ other.length

/-- The scan of a text from left to right, with the names and bodies that it finds. -/
inductive LinearScan : List Char → List (String × List Char) → Prop where
  /-- No header is left. -/
  | done {text : List Char} (none : NoHeader text []) : LinearScan text []
  /-- The body behind the leftmost header does not end. -/
  | unended {before text rest : List Char} {name : String} (leftmost : NoHeader before text)
      (opens : Opens text name rest) (noEnd : ∀ inside after, ¬ CanEnd rest inside after) :
      LinearScan (before ++ text) []
  /-- The body behind the leftmost header ends, and the scan goes on behind its semicolon. -/
  | found {before text rest inside after : List Char} {name : String}
      {more : List (String × List Char)}
      (leftmost : NoHeader before text) (opens : Opens text name rest)
        (isBody : IsBody rest inside after)
      (scan : LinearScan after more) : LinearScan (before ++ text) ((name, inside) :: more)

/-! ### Headers are read -/

theorem optionally_quote_eq_some {result : Unit}
    (read : optionally quote text = some (result, rest)) :
    ∃ quotes ∈ anyQuote, text = quotes ++ rest := by
  simp only [optionally, orElse_eq_some, quote, bind_eq_some, one_eq_some, pure_eq_some] at read
  rcases read with ⟨char, _, ⟨rfl, quoted⟩, _, rfl⟩ | ⟨_, _, rfl⟩
  · exact ⟨[char], mem_anyQuote.2 (.inr ⟨char, quoted, rfl⟩), rfl⟩
  · exact ⟨[], mem_anyQuote.2 (.inl rfl), rfl⟩

theorem exists_of_quotedName (read : quotedName text = some (name, rest)) : IsWord name.toList ∧
    ∃ first ∈ anyQuote, ∃ second ∈ anyQuote, text = first ++ (name.toList ++ (second ++ rest)) := by
  simp only [quotedName, bind_eq_some, pure_eq_some] at read
  rcases read with ⟨_, _, readFirst, _, _, readWord, _, _, readSecond, rfl, rfl⟩
  rcases optionally_quote_eq_some readFirst with ⟨first, isFirst, rfl⟩
  rcases optionally_quote_eq_some readSecond with ⟨second, isSecond, rfl⟩
  rcases word_eq_some.1 readWord with ⟨rfl, named, _⟩
  exact ⟨named, first, isFirst, second, isSecond, rfl⟩

/-- What a statement begins with is a header. -/
theorem opens_of_tableStatement (read : tableStatement text = some ((name, inside), after)) :
    ∃ rest, Opens text name rest ∧ body rest = some (inside, after) := by
  simp only [tableStatement, bind_eq_some, keyword_eq_some, someSpaces_eq_some, spaces_eq_some,
    mark_eq_some, pure_eq_some, Prod.mk.injEq] at read
  rcases read with ⟨_, _, ⟨create, isCreate, rfl⟩, _, _, ⟨gap, rfl, nonempty, isGap, _⟩, _, _,
    ⟨table, isTable, rfl⟩,
    _, _, ⟨space, rfl, nonemptySpace, areSpaces, _⟩, found, _, readName, _, _,
    ⟨margin, rfl, isMargin, _⟩, _, rest, rfl,
    _, _, readBody, ⟨rfl, rfl⟩, rfl⟩
  rcases exists_of_quotedName readName with ⟨named, first, isFirst, second, isSecond, rfl⟩
  have createKeyword : create ∈ keyword "CREATE" := keyword_of_isSpelling (by decide) isCreate
  have tableKeyword : table ∈ keyword "TABLE" := keyword_of_isSpelling (by decide) isTable
  refine ⟨rest, ⟨named, create ++ (gap ++ (table ++ (space ++ (first ++ (found.toList ++ (second ++
    (margin ++ ['(']))))))), ?_, by simp⟩, readBody⟩
  apply Language.append_mem_mul createKeyword
  apply Language.append_mem_mul (show gap ∈ blank from ⟨nonempty, isGap⟩)
  apply Language.append_mem_mul tableKeyword
  apply Language.append_mem_mul (show space ∈ blank from ⟨nonemptySpace, areSpaces⟩)
  apply Language.append_mem_mul isFirst
  apply Language.append_mem_mul (mem_exactly.2 rfl)
  apply Language.append_mem_mul isSecond
  exact Language.append_mem_mul (show margin ∈ blanks from isMargin) (mem_mark.2 rfl)

/-- The header of a statement closes no parenthesis. -/
theorem not_mem_header {head : List Char} (named : IsWord name.toList)
    (isHead : head ∈ header name) : ')' ∉ head := by
  have noSpace : ∀ char ∈ [')'], isSpace char = false := by decide
  have quoteFree : Free [')'] anyQuote :=
    free_one.add ((free_mark (by decide)).add (free_mark (by decide)))
  have nameFree : Free [')'] (exactly name.toList) := Writing.free_word (by decide) named
  have ending : Free [')'] (blanks * mark '(') :=
    (Writing.free_blanks noSpace).mul (free_mark (by decide))
  have naming := quoteFree.mul (nameFree.mul (quoteFree.mul ending))
  have blankFree : Free [')'] blank := Writing.free_blank noSpace
  have headFree : Free [')'] (header name) :=
    (free_keyword (by decide)).mul
      (blankFree.mul ((free_keyword (by decide)).mul (blankFree.mul naming)))
  exact headFree.not_mem isHead (by decide)

/-! ### Bodies are read -/

theorem afterSemicolon?_eq_some :
    afterSemicolon? text = some after ↔ ∃ between, text = between ++ ';' :: after ∧ ')' ∉ between ∧
    ';' ∉ between := by
  induction text with
  | nil => simp [afterSemicolon?]
  | cons char more ih =>
    rw [afterSemicolon?]
    by_cases isEnd : char = ';'
    · rw [if_pos isEnd, isEnd, Option.some.injEq]
      constructor
      · rintro rfl
        exact ⟨[], rfl, by simp, by simp⟩
      · rintro ⟨between, split, _, noEnd⟩
        exact (append_cons_inj List.not_mem_nil noEnd split).2
    · rw [if_neg isEnd]
      by_cases closes : char = ')'
      · rw [if_pos closes, closes]
        constructor
        · intro impossible
          cases impossible
        · rintro ⟨between, split, noClosing, _⟩
          exact absurd split (append_cons_ne (by decide) List.not_mem_nil noClosing)
      · rw [if_neg closes, ih]
        constructor
        · rintro ⟨between, rfl, noClosing, noEnd⟩
          exact ⟨char :: between,
            rfl, by simp [Ne.symm closes, noClosing], by simp [Ne.symm isEnd, noEnd]⟩
        · rintro ⟨between, split, noClosing, noEnd⟩
          cases between with
          | nil => exact absurd (List.cons.inj split).1 isEnd
          | cons other between =>
            rw [List.mem_cons, not_or] at noClosing noEnd
            exact ⟨between, (List.cons.inj split).2, noClosing.2, noEnd.2⟩

theorem canEnd_nil {char : Char} :
    CanEnd (char :: text) [] after ↔ (if char = ')' then afterSemicolon? text else none) =
      some after := by
  by_cases closes : char = ')'
  · simp [CanEnd, afterSemicolon?_eq_some, closes]
  · simp [CanEnd, closes]

theorem canEnd_cons {char other : Char} :
    CanEnd (char :: text) (other :: inside) after ↔ char = other ∧ CanEnd text inside after := by
  simp only [CanEnd, List.cons_append, List.cons.injEq]
  constructor
  · rintro ⟨between, ⟨same, split⟩, free⟩
    exact ⟨same, between, split, free⟩
  · rintro ⟨same, between, split, free⟩
    exact ⟨between, ⟨same, split⟩, free⟩

theorem body_eq_none : body text = none ↔ ∀ inside after, ¬ CanEnd text inside after := by
  induction text with
  | nil => simp [body, CanEnd]
  | cons char more ih =>
    rw [body]
    split
    · rename_i after isEnd
      constructor
      · intro impossible
        cases impossible
      · intro noEnd
        exact absurd (canEnd_nil.2 isEnd) (noEnd [] after)
    · rename_i notEnd
      rw [Option.map_eq_none_iff, ih]
      constructor
      · intro noEnd inside after canEnd
        cases inside with
        | nil =>
          rw [canEnd_nil.1 canEnd] at notEnd
          cases notEnd
        | cons first others => exact noEnd others after (canEnd_cons.1 canEnd).2
      · intro noEnd inside after canEnd
        exact noEnd (char :: inside) after (canEnd_cons.2 ⟨rfl, canEnd⟩)

theorem IsBody.unique {other behind : List Char} (isBody : IsBody text inside after)
    (isOther : IsBody text other behind) : inside = other ∧ after = behind := by
  rcases isBody.canEnd with ⟨between, split, _, noEnd⟩
  rcases isOther.canEnd with ⟨further, same, _, noFurther⟩
  have length : inside.length = other.length :=
    le_antisymm (isBody.isFirst other behind isOther.canEnd)
      (isOther.isFirst inside after isBody.canEnd)
  rw [split] at same
  rcases List.append_inj same length with ⟨sameInside, sameRest⟩
  exact ⟨sameInside, (append_cons_inj noEnd noFurther (List.cons.inj sameRest).2).2⟩

theorem isBody_of_body (read : body text = some (inside, after)) : IsBody text inside after := by
  induction text generalizing inside with
  | nil => cases read
  | cons char more ih =>
    rw [body] at read
    split at read
    · rename_i isEnd
      cases read
      exact ⟨canEnd_nil.2 isEnd, fun _ _ _ => Nat.zero_le _⟩
    · rename_i notEnd
      rcases Option.map_eq_some_iff.1 read with ⟨⟨others, _⟩, readMore, same⟩
      cases same
      have isBody := ih readMore
      refine ⟨canEnd_cons.2 ⟨rfl, isBody.canEnd⟩, ?_⟩
      intro other rest canEnd
      cases other with
      | nil =>
        rw [canEnd_nil.1 canEnd] at notEnd
        cases notEnd
      | cons first other =>
        apply Nat.succ_le_succ
        exact isBody.isFirst other rest (canEnd_cons.1 canEnd).2

/-- The body that is read is the shortest one. -/
theorem body_eq_some : body text = some (inside, after) ↔ IsBody text inside after := by
  constructor
  · exact isBody_of_body
  · intro isBody
    cases read : body text with
    | none => exact absurd isBody.canEnd (body_eq_none.1 read inside after)
    | some found =>
      rcases isBody.unique (isBody_of_body read) with ⟨rfl, rfl⟩
      rfl

/-! ### The scan -/

theorem noHeader_nil (rest : List Char) : NoHeader [] rest := by
  intro suffix isSuffix nonempty
  exact absurd (List.suffix_nil.1 isSuffix) nonempty

theorem NoHeader.cons {part : List Char} {char : Char} (noHeader : NoHeader part rest)
    (notHere : ∀ name behind, ¬ Opens (char :: (part ++ rest)) name behind) :
    NoHeader (char :: part) rest := by
  intro suffix isSuffix nonempty name behind opens
  rcases List.suffix_cons_iff.1 isSuffix with rfl | shorter
  · exact notHere name behind opens
  · exact noHeader suffix shorter nonempty name behind opens

/-- Where no header begins, no statement is read. -/
theorem NoHeader.tableStatement_eq_none {part suffix : List Char} (noHeader : NoHeader part rest)
    (isSuffix : suffix <:+ part) (nonempty : suffix ≠ []) :
    tableStatement (suffix ++ rest) = none := by
  rw [Option.eq_none_iff_forall_ne_some]
  rintro ⟨⟨name, inside⟩, after⟩ read
  rcases opens_of_tableStatement read with ⟨behind, opens, _⟩
  exact noHeader suffix isSuffix nonempty name behind opens

theorem NoHeader.all_append {part : List Char} (noHeader : NoHeader part rest) :
    all tableStatement (part ++ rest) = all tableStatement rest :=
  all_append_of_none fun _ => noHeader.tableStatement_eq_none

/-- A text has a leftmost header or none. -/
theorem exists_leftmost (text : List Char) : NoHeader text [] ∨
    ∃ before suffix name rest, text = before ++ suffix ∧ NoHeader before suffix ∧
    Opens suffix name rest := by
  induction text with
  | nil => exact .inl (noHeader_nil [])
  | cons char more ih =>
    by_cases here : ∃ name rest, Opens (char :: more) name rest
    · rcases here with ⟨name, rest, opens⟩
      exact .inr ⟨[], char :: more, name, rest, rfl, noHeader_nil _, opens⟩
    · rw [not_exists] at here
      rcases ih with none | ⟨before, suffix, name, rest, rfl, leftmost, opens⟩
      · left
        apply none.cons
        intro name behind opens
        rw [List.append_nil] at opens
        exact here name ⟨behind, opens⟩
      · right
        refine ⟨char :: before, suffix, name, rest, rfl, leftmost.cons ?_, opens⟩
        intro other behind isOther
        exact here other ⟨behind, isOther⟩

/-- What follows a statement is shorter than its text. -/
theorem Opens.length_lt (opens : Opens text name rest) (canEnd : CanEnd rest inside after) :
    after.length < text.length := by
  rcases opens with ⟨_, head, _, rfl⟩
  rcases canEnd with ⟨between, rfl, _⟩
  simp only [List.length_append, List.length_cons]
  omega

/-- The scan goes through any text. -/
theorem exists_linearScan (text : List Char) : ∃ found, LinearScan text found := by
  induction length : text.length using Nat.strong_induction_on generalizing text with
  | h length ih =>
    subst length
    rcases exists_leftmost text with none | ⟨before, suffix, name, rest, rfl, leftmost, opens⟩
    · exact ⟨[], .done none⟩
    · cases read : body rest with
      | none => exact ⟨[], .unended leftmost opens (body_eq_none.1 read)⟩
      | some found =>
        have isBody : IsBody rest found.1 found.2 := isBody_of_body read
        have shorter : found.2.length < (before ++ suffix).length := by
          have behind := opens.length_lt isBody.canEnd
          rw [List.length_append]
          omega
        rcases ih _ shorter found.2 rfl with ⟨more, scan⟩
        exact ⟨(name, found.1) :: more, .found leftmost opens isBody scan⟩

/-- A parenthesis that closes behind a header closes in what follows the header. -/
theorem Opens.suffix_of_closing {tail : List Char} (opens : Opens text name rest)
    (isSuffix : ')' :: tail <:+ text) :
    ')' :: tail <:+ rest := by
  rcases opens with ⟨named, head, isHead, rfl⟩
  have closesNone := not_mem_header named isHead
  clear isHead
  induction head with
  | nil => exact isSuffix
  | cons char more ih =>
    rw [List.mem_cons, not_or] at closesNone
    rcases List.suffix_cons_iff.1 isSuffix with same | shorter
    · exact absurd (List.cons.inj same).1 closesNone.1
    · exact ih shorter closesNone.2

/-- No statement ends behind a header whose body does not end. -/
theorem Opens.all_eq_nil (opens : Opens text name rest)
    (noEnd : ∀ inside after, ¬ CanEnd rest inside after) :
    all tableStatement text = [] := by
  apply Scan.all_eq_nil
  intro suffix isSuffix
  rw [Option.eq_none_iff_forall_ne_some]
  rintro ⟨⟨other, inside⟩, after⟩ read
  rcases opens_of_tableStatement read with ⟨behind, ⟨_, head, _, rfl⟩, readBody⟩
  rcases (isBody_of_body readBody).canEnd with ⟨between, rfl, free⟩
  -- The closing parenthesis of the later statement could end the body of this one.
  have closing : ')' :: (between ++ ';' :: after) <:+ text :=
    ((List.suffix_append inside _).trans (List.suffix_append head _)).trans isSuffix
  rcases opens.suffix_of_closing closing with ⟨body, rfl⟩
  exact noEnd body after ⟨between, rfl, free⟩

/-- All statements of a text are those of the scan. -/
theorem all_of_linearScan {found : List (String × List Char)} (scan : LinearScan text found) :
    all tableStatement text = found := by
  induction scan with
  | done none =>
    have passed := none.all_append
    rw [List.append_nil] at passed
    rw [passed, all]
  | unended leftmost opens noEnd => rw [leftmost.all_append, opens.all_eq_nil noEnd]
  | found leftmost opens isBody _ ih =>
    have read := tableStatement_of_opens opens (body_eq_some.2 isBody)
    rw [leftmost.all_append, all_of_some read (opens.length_lt isBody.canEnd), ih]

/-- The blocks of a text, by the pattern of a statement: each at the leftmost place behind the one
before. -/
def blocks (text : List Char) : List (String × List Char) := all (Pattern.first tablePattern) text

/-- What the pattern of a table statement finds in a text is what one scan from left to right finds,
and the tables of the text have the names and the bodies of what is found. -/
theorem linearScan_iff_blocks (text : List Char) (found : List (String × List Char)) :
    (LinearScan text found ↔ blocks text = found) ∧
    tables text = (blocks text).map (fun (name, body) => tableOf name body) ∧
    (parse text).result.map Table.name = (blocks text).map Prod.fst := by
  have asScan : blocks text = all tableStatement text := by rw [blocks, first_tablePattern]
  rw [asScan]
  refine ⟨⟨all_of_linearScan, ?_⟩, rfl, ?_⟩
  · rintro rfl
    rcases exists_linearScan text with ⟨found, scan⟩
    rwa [all_of_linearScan scan]
  · have settled : (parse text).result = (Table.settle (enums text) (tables text)).result := rfl
    rw [settled, Table.result_settle, tables, List.map_map, List.map_map]
    rfl

end Schemagram.Sql
