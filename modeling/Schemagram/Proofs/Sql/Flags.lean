import Schemagram.Proofs.Scan.Parts
import Schemagram.Proofs.Scan.Search
import Schemagram.Proofs.Sql.Pattern

/-!
# Flags and markers

The flags of a column are read off the text of its markers once more, in lower case.  What a keyword
matches is not always the keyword in lower case: an i without a dot, and a capital one with a dot,
match the letter I of a keyword, but lower case makes neither of them an i.  So a primary key whose
marker is written with one of them is not flagged.
-/

namespace Schemagram.Sql

open Text Writing
open Scan hiding keyword mark

variable {text rest group : List Char}

/-- The letters that a keyword takes for an i and that are none in lower case. -/
def otherI : List Char := ['\u0130', '\u0131']

/-- The letters outside of the basic alphabet that a keyword takes for one of it. -/
def relatives : List Char := ['\u212a', '\u017f', '\u0130', '\u0131']

/-- The groups that the pattern of a column matches, at the first place of a fragment where it
does. -/
def groups? (fragment : List Char) : Option ColumnGroups :=
  search (Pattern.first columnPattern) fragment

theorem search_column_eq_map (fragment : List Char) :
    search column fragment = (groups? fragment).map ColumnGroups.column := by
  rw [column_eq_map, search_map, groups?]

/-! ### Spellings of a marker -/

/-- A group of a marker is empty or one of its keywords, as they are written. -/
theorem spelled_of_marker {long short : String}
    (read : marker long short text = some (group, rest)) :
    group = [] ∨ IsSpelling long group ∨ IsSpelling short group := by
  have takes (name : String) : Takes (fun _ => True) (Scan.keyword name) :=
    takes_keyword fun _ _ _ _ => trivial
  simp only [marker, bind_eq_some] at read
  rcases read with ⟨_, between, _, read⟩
  rcases orElse_eq_some.1 read with marked | ⟨_, missing⟩
  · rcases map_eq_some.1 marked with ⟨⟨written, _⟩, readText, rfl⟩
    rcases (withText_eq_some ((takes long).orElse (takes short))).1 readText with ⟨readKeyword, rfl⟩
    right
    rcases orElse_eq_some.1 readKeyword with isLong | ⟨_, isShort⟩
    · rcases keyword_eq_some.1 isLong with ⟨spelling, spelled, same⟩
      rw [List.append_cancel_right same]
      exact .inl spelled
    · rcases keyword_eq_some.1 isShort with ⟨spelling, spelled, same⟩
      rw [List.append_cancel_right same]
      exact .inr spelled
  · exact .inl (pure_eq_some.1 missing).1.symm

/-- A letter of a keyword is the same letter in lower case, unless it is spelled as a long s or as
another i. -/
theorem lowerChar_of_isSameLetter {letter char : Char} (basic : small letter ∉ relatives)
    (same : isSameLetter letter char = true) : lowerChar char = [small letter] ∧ char ∉ otherI ∨
      small letter = 's' ∧ char = '\u017f' ∨ small letter = 'i' ∧ char ∈ otherI := by
  simp only [isSameLetter, Bool.or_eq_true, decide_eq_true_eq] at same
  rcases caseRelative_cases char with noRelative | relative
  · left
    have sameSmall : small char = small letter := by
      rcases same with same | same
      · exact same.symm
      · rw [← small_small letter, same, noRelative]
    have differs {other : Char} (isRelative : small other ∈ relatives) : char ≠ other := by
      rintro rfl
      exact basic (sameSmall ▸ isRelative)
    have noOther : char ∉ otherI := by
      intro mem
      have all : ∀ other ∈ otherI, small other ∈ relatives := by decide
      exact differs (all char mem) rfl
    rw [lowerChar, if_neg (differs (by decide)), if_neg (differs (by decide)), sameSmall]
    exact ⟨rfl, noOther⟩
  · have known {other : Char} (isRelative : other ∈ relatives) : small letter ≠ other := by
      rintro rfl
      exact basic isRelative
    simp only [List.mem_cons, List.not_mem_nil, or_false] at relative
    rcases relative with rfl | rfl | rfl | rfl
    · have isK : small letter = 'k' := same.resolve_left (known (by decide))
      rw [isK]
      decide
    · exact .inr (.inl ⟨same.resolve_left (known (by decide)), rfl⟩)
    · exact .inr (.inr ⟨same.resolve_left (known (by decide)), by decide⟩)
    · exact .inr (.inr ⟨same.resolve_left (known (by decide)), by decide⟩)

/-- A keyword without an s and an i is itself in lower case, however it is spelled. -/
theorem lower_of_spelled {letters : List Char}
    (even : ∀ letter ∈ letters, small letter ∉ 's' :: 'i' :: relatives)
    (spelled : List.Forall₂ (fun letter char => isSameLetter letter char = true) letters text) :
    lower text = letters.map small ∧ ∀ char ∈ text, char ∉ otherI := by
  induction spelled with
  | nil => simp [lower]
  | @cons letter char letters text same _ ih =>
    have others := ih fun letter mem => even letter (List.mem_cons_of_mem _ mem)
    have isEven := even letter List.mem_cons_self
    simp only [List.mem_cons, not_or] at isEven
    rcases lowerChar_of_isSameLetter isEven.2.2 same with ⟨first, noOther⟩ | ⟨isS, _⟩ | ⟨isI, _⟩
    · rw [lower_cons, first, others.1]
      exact ⟨rfl, List.forall_mem_cons.2 ⟨noOther, others.2⟩⟩
    · exact absurd isS isEven.1
    · exact absurd isI isEven.2.1

/-- The long marker of a primary key around its I, which is the one letter that lower case may
miss. -/
theorem exists_of_isSpelling_primaryKey (spelled : IsSpelling "PRIMARY KEY" group) :
    ∃ before letter after, group = before ++ letter :: after ∧ isSameLetter 'I' letter = true ∧
      (lower before = "pr".toList ∧ ∀ char ∈ before, char ∉ otherI) ∧
      (lower after = "mary key".toList ∧ ∀ char ∈ after, char ∉ otherI) := by
  rcases spelled with _ | ⟨isP, _ | ⟨isR, _ | ⟨isI, others⟩⟩⟩
  have start : List.Forall₂ (fun letter char => isSameLetter letter char = true)
      ['P', 'R'] [_, _] :=
    .cons isP (.cons isR .nil)
  exact ⟨[_, _], _, _, rfl, isI, lower_of_spelled (by decide) start,
    lower_of_spelled (by decide) others⟩

/-- The flag of a primary key is missed exactly where its marker is spelled with another i. -/
theorem isPrimaryKey_of_spelled (spelled : IsSpelling "PRIMARY KEY" group ∨ IsSpelling "PK" group) :
    Markers.isPrimaryKey group = true ↔ ∀ char ∈ group, char ∉ otherI := by
  rcases spelled with long | short
  · rcases exists_of_isSpelling_primaryKey long with
      ⟨before, letter, after, rfl, isI, ⟨lowerBefore, plainBefore⟩, ⟨lowerAfter, plainAfter⟩⟩
    have inLower : lower (before ++ letter :: after) = "pr".toList ++
        (lowerChar letter ++ "mary key".toList) := by
      rw [lower_append, lower_cons, lowerBefore, lowerAfter]
    rw [Markers.isPrimaryKey, Markers.occurIn, inLower]
    rcases lowerChar_of_isSameLetter (by decide) isI with
      ⟨isLetter, noOther⟩ | ⟨isS, _⟩ | ⟨_, isOther⟩
    · apply iff_of_true
      · rw [isLetter]
        decide
      · intro char mem
        rcases List.mem_append.1 mem with mem | mem
        · exact plainBefore char mem
        · have plain : ∀ char ∈ letter :: after, char ∉ otherI :=
            List.forall_mem_cons.2 ⟨noOther, plainAfter⟩
          exact plain char mem
    · exact absurd isS (by decide)
    · have missed : ∀ other ∈ otherI, Markers.primaryKey.any (fun marker =>
          contains marker.toList ("pr".toList ++ (lowerChar other ++ "mary key".toList))) =
            false := by
        decide
      apply iff_of_false
      · rw [missed letter isOther]
        simp
      · intro plain
        exact plain letter (by simp) isOther
  · have plain := lower_of_spelled (by decide) short
    apply iff_of_true _ plain.2
    rw [Markers.isPrimaryKey, Markers.occurIn, plain.1]
    decide

theorem isPrimaryKey_iff
    (spelled : group = [] ∨ IsSpelling "PRIMARY KEY" group ∨ IsSpelling "PK" group) :
    Markers.isPrimaryKey group = true ↔ group ≠ [] ∧ ∀ char ∈ group, char ∉ otherI := by
  constructor
  · intro isKey
    have nonempty : group ≠ [] := by
      rintro rfl
      exact absurd isKey (by decide)
    exact ⟨nonempty, (isPrimaryKey_of_spelled (spelled.resolve_left nonempty)).1 isKey⟩
  · rintro ⟨nonempty, plain⟩
    exact (isPrimaryKey_of_spelled (spelled.resolve_left nonempty)).2 plain

/-- The other flag is never missed. -/
theorem isNotNull_iff (spelled : group = [] ∨ IsSpelling "NOT NULL" group ∨ IsSpelling "NN" group) :
    Markers.isNotNull group = true ↔ group ≠ [] := by
  constructor
  · rintro isNotNull rfl
    exact absurd isNotNull (by decide)
  · intro nonempty
    rcases spelled.resolve_left nonempty with long | short
    · exact isNotNull_written (.inl (keyword_of_isSpelling (by decide) long))
    · exact isNotNull_written (.inr (keyword_of_isSpelling (by decide) short))

/-! ### Flags of a column -/

theorem spelled_of_groups? {fragment : List Char} {groups : ColumnGroups}
    (matched : groups? fragment = some groups) :
    (groups.notNull = [] ∨ IsSpelling "NOT NULL" groups.notNull ∨ IsSpelling "NN" groups.notNull) ∧
    (groups.primaryKey = [] ∨ IsSpelling "PRIMARY KEY" groups.primaryKey ∨
      IsSpelling "PK" groups.primaryKey) := by
  rcases search_eq_some matched with ⟨suffix, rest, read⟩
  rw [first_columnPattern] at read
  simp only [columnGroups, bind_eq_some, pure_eq_some] at read
  rcases read with ⟨_, _, _, _, _, _, _, _, _, notNull, _, readNotNull, primaryKey, _,
    readPrimaryKey, rfl, _⟩
  exact ⟨spelled_of_marker readNotNull, spelled_of_marker readPrimaryKey⟩

/-- A column is not nullable exactly if the group of that marker is matched.  It is a primary key
exactly if the group of a primary key is matched with no i but a plain one, or if its name says
so. -/
theorem flags_of_groups {fragment : List Char} {column : Column}
    (isColumn : search Sql.column fragment = some column) :
    ∃ groups, groups? fragment = some groups ∧ column.name = groups.name ∧
    column.type = groups.type ∧
      (column.isNullable = false ↔ groups.notNull ≠ []) ∧
      (column.isPrimaryKey = true ↔
        (groups.primaryKey ≠ [] ∧ ∀ char ∈ groups.primaryKey, char ∉ otherI) ∨
        IsKeyName column.name) := by
  rw [search_column_eq_map, Option.map_eq_some_iff] at isColumn
  rcases isColumn with ⟨groups, matched, rfl⟩
  rcases spelled_of_groups? matched with ⟨notNull, primaryKey⟩
  refine ⟨groups, matched, rfl, rfl, ?_, ?_⟩
  · rw [ColumnGroups.column, Bool.not_eq_false', isNotNull_iff notNull]
  · rw [ColumnGroups.column, Bool.or_eq_true, isPrimaryKey_iff primaryKey, IsKeyName]

/-- A marker with a Kelvin sign in it is matched, and is still a marker in lower case. -/
theorem flags_of_groups_kelvin :
    search Sql.column "id INT nn primary \u212aey".toList =
      some ⟨"id", "INT", true, false, none, none⟩ ∧
    ∃ groups, groups? "id INT nn primary \u212aey".toList = some groups ∧ "id" = groups.name ∧
    "INT" = groups.type ∧
      (false = false ↔ groups.notNull ≠ []) ∧
      (true = true ↔ (groups.primaryKey ≠ [] ∧ ∀ char ∈ groups.primaryKey, char ∉ otherI) ∨
        IsKeyName "id") := by
  have isColumn : search Sql.column "id INT nn primary \u212aey".toList =
      some ⟨"id", "INT", true, false, none, none⟩ := by decide +kernel
  exact ⟨isColumn, flags_of_groups isColumn⟩

/-- A marker with an i without a dot is matched, and the column is no primary key. -/
theorem flag_without_dot :
    ¬ ∀ (fragment : List Char) (column : Column) (groups : ColumnGroups),
      search Sql.column fragment = some column → groups? fragment = some groups →
        (column.isPrimaryKey = true ↔ groups.primaryKey ≠ [] ∨ IsKeyName column.name) := by
  intro agrees
  have isKey := (agrees "id int PR\u0131MARY KEY".toList ⟨"id", "int", false, true, none, none⟩
    ⟨"id", "int", [], "PR\u0131MARY KEY".toList⟩ (by decide +kernel) (by decide +kernel)).2 (.inl
      (by decide))
  cases isKey

end Schemagram.Sql
