import Schemagram.Proofs.Diagram.Building
import Schemagram.Proofs.Scan.Search
import Schemagram.Proofs.Scan.Types

/-!
# The lines of a diagram can be read

An entity has a line of text for each column of its table: a mark for a primary key, the name, the
type in parentheses, a mark for what is not nullable, and the columns that the column refers to.
Nothing is reserved for the marks, so that a column may be called `PK`, and its type may end in a
parenthesis itself.

Reading a line from left to right gives back all that was written into it: each part is told by its
first characters once the parts before it are known.  So no two columns with their references have
the same line.
-/

namespace Schemagram

open Text Writing

/-- What the line of a column says. -/
structure Label where
  name : String
  type : String
  isPrimaryKey : Bool
  isNullable : Bool
  /-- The columns that the column refers to, each behind its table. -/
  references : List (String × String)
  deriving DecidableEq, Repr

/-- Names are words, those of references too, and the type is a word that may have one or two
sizes. -/
structure Label.IsPlain (label : Label) : Prop where
  name : IsWord label.name.toList
  type : IsType label.type.toList
  references : ∀ reference ∈ label.references, IsWord reference.1.toList ∧ IsWord reference.2.toList

namespace Column

def label (column : Column) (references : List (String × String)) : Label where
  name := column.name
  type := column.type
  isPrimaryKey := column.isPrimaryKey
  isNullable := column.isNullable
  references

/-- The line of a column with references. -/
def line (column : Column) (references : List (String × String)) : String :=
  references.foldl (fun line reference => line ++ " [ref: > " ++ reference.1 ++ "." ++
    reference.2 ++ "]")
    column.description

end Column

/-- What the column with an index refers to, by the keys that resolve. -/
def Table.referencesAt (tables : List Table) (table : Table) (index : Nat) :
    List (String × String) :=
  ((table.resolvedKeys tables).filter (table.columnIndex ·.column = index)).map fun key =>
    (key.referenceTable, key.referenceColumn)

theorem Diagram.attributes_placed (tables : List Table) (source : String) (layout : Layout) :
    (placed tables source layout).entities.map Entity.attributes = tables.map fun table =>
      table.columns.zipIdx.map fun item => item.1.line (table.referencesAt tables item.2) := by
  have lines (table : Table) (item : Column × Nat) :
      table.line (table.resolvedKeys tables) item.1 item.2 =
      item.1.line (table.referencesAt tables item.2) := by
    simp [Table.line, Column.line, Table.referencesAt, List.foldl_map]
  have byPlace : tables.map (fun table => table.columns.zipIdx.map fun item =>
      item.1.line (table.referencesAt tables item.2)) = (tables.zipIdx.map Prod.fst).map
        fun table =>
        table.columns.zipIdx.map fun item => item.1.line (table.referencesAt tables item.2) := by
    rw [List.zipIdx_map_fst]
  rw [byPlace, placed, List.map_map, List.map_map]
  apply List.map_congr_left
  intro item _
  simp [Table.placed, lines]

namespace Scan

variable {text rest : List Char}

/-! ### Reading a line -/

/-- Whether a mark stands at the beginning. -/
def flag (expected : String) : Scan Bool :=
  (do
    exactly expected
    return true) <|> pure false

def reference : Scan (String × String) := do
  exactly " [ref: > "
  let column ← dotted
  mark ']'
  return column

def label : Scan Label := do
  let isPrimaryKey ← flag "PK: "
  let name ← word
  exactly " ("
  let type ← type (precision secondDigits)
  mark ')'
  let isRequired ← flag " NOT NULL"
  let references ← many reference
  return { name, type, isPrimaryKey, isNullable := !isRequired, references }

theorem exactly_eq_some {expected : String} {result : Unit} :
    exactly expected text = some (result, rest) ↔ text = expected.toList ++ rest := by
  simp [exactly, literal_eq_some]

theorem exactly_append (expected : String) (rest : List Char) :
    exactly expected (expected.toList ++ rest) = some ((), rest) :=
  exactly_eq_some.2 rfl

theorem exactly_eq_none {expected : String} (absent : ¬ expected.toList <+: text) :
    exactly expected text = none := by
  rw [Option.eq_none_iff_forall_ne_some]
  rintro ⟨_, rest⟩ read
  exact absent ⟨rest, (exactly_eq_some.1 read).symm⟩

theorem flag_append (expected : String) (rest : List Char) :
    flag expected (expected.toList ++ rest) = some (true, rest) := by
  apply orElse_eq_some.2
  left
  simp only [bind_eq_some, pure_eq_some]
  exact ⟨(), rest, exactly_append expected rest, trivial, rfl⟩

theorem flag_of_not_prefix {expected : String} (absent : ¬ expected.toList <+: text) :
    flag expected text = some (false, text) := by
  apply orElse_eq_some.2
  right
  exact ⟨bind_eq_none (exactly_eq_none absent), rfl⟩

/-- A mark is read off where it is written, and not seen where something else stands. -/
theorem flag_ite (isThere : Bool) {expected : String} (absent : ¬ expected.toList <+: rest) :
    flag expected ((if isThere then expected else "").toList ++ rest) = some (isThere, rest) := by
  cases isThere with
  | true => exact flag_append expected rest
  | false => simpa using flag_of_not_prefix absent

/-! ### References -/

def referenceText (reference : String × String) : List Char :=
  " [ref: > ".toList ++ (reference.1.toList ++ ('.' :: (reference.2.toList ++ [']'])))

/-- A reference and the mark for what is not nullable differ in their second characters. -/
theorem second_referenceText (reference : String × String) :
    ∃ rest, referenceText reference = ' ' :: '[' :: rest := by
  unfold referenceText
  simp

theorem reference_append {found : String × String}
    (named : IsWord found.1.toList ∧ IsWord found.2.toList) (rest : List Char) :
    reference (referenceText found ++ rest) = some (found, rest) := by
  have endsTable (more : List Char) : Ends isWord ('.' :: more) := ends_cons.2 (by decide)
  have endsColumn (more : List Char) : Ends isWord (']' :: more) := ends_cons.2 (by decide)
  unfold referenceText
  simp only [reference, dotted, bind_eq_some, pure_eq_some, List.append_assoc, List.cons_append,
    List.nil_append]
  refine ⟨(), _, exactly_append " [ref: > " _, found, ']' :: rest, ?_, (), rest,
    mark_cons ']' rest, rfl, rfl⟩
  exact ⟨found.1, _, word_append named.1 (endsTable _), (), _, mark_cons '.' _, found.2, _,
    word_append named.2 (endsColumn _), rfl, rfl⟩

theorem many_references {references : List (String × String)}
    (named : ∀ reference ∈ references, IsWord reference.1.toList ∧ IsWord reference.2.toList) :
    many reference (references.flatMap referenceText) = some (references, []) := by
  induction references with
  | nil =>
    apply many_of_none
    rfl
  | cons first more ih =>
    rw [List.forall_mem_cons] at named
    rw [List.flatMap_cons]
    apply many_of_some (reference_append named.1 _) _ (ih named.2)
    rcases second_referenceText first with ⟨rest, isFirst⟩
    simp [isFirst]
    omega

/-! ### Lines -/

theorem toList_line (column : Column) (references : List (String × String)) :
    (column.line references).toList =
      (if column.isPrimaryKey then "PK: " else "").toList ++ (column.name.toList ++ (" (".toList ++
        (column.type.toList ++ (')' :: ((if !column.isNullable then " NOT NULL" else "").toList ++
          references.flatMap referenceText))))) := by
  have grown (line : String) : (references.foldl (fun line reference =>
      line ++ " [ref: > " ++ reference.1 ++ "." ++ reference.2 ++ "]") line).toList =
        line.toList ++ references.flatMap referenceText := by
    induction references generalizing line with
    | nil => simp
    | cons first more ih =>
      have closing : "]".toList = [']'] := by decide
      have dot : ".".toList = ['.'] := by decide
      rw [List.foldl_cons, ih, List.flatMap_cons]
      unfold referenceText
      simp only [String.toList_append, closing, dot, List.append_assoc, List.cons_append,
        List.nil_append]
  have closing : ")".toList = [')'] := by decide
  rw [Column.line, grown, Column.description]
  simp only [String.toList_append, closing, List.append_assoc, List.cons_append, List.nil_append]
  cases column.isNullable with
  | true => rfl
  | false => rfl

/-- Behind a name stands a blank, and behind the letters of the mark for a primary key a colon. -/
theorem not_prefix_name {name : String} (named : IsWord name.toList) (rest : List Char) :
    ¬ "PK: ".toList <+: name.toList ++ (" (".toList ++ rest) := by
  have isMark : "PK: ".toList = "PK".toList ++ [':', ' '] := by decide
  have isGap : " (".toList = [' ', '('] := by decide
  rintro ⟨more, same⟩
  rw [isMark, isGap, List.append_assoc] at same
  simp only [List.cons_append, List.nil_append] at same
  have letters : ∀ char ∈ "PK".toList, isWord char = true := by decide
  have taken := congrArg (List.dropWhile isWord) same
  rw [dropWhile_run letters (ends_cons.2 (by decide)),
    dropWhile_run named.2 (ends_cons.2 (by decide))] at taken
  cases taken

theorem not_prefix_references (references : List (String × String)) :
    ¬ " NOT NULL".toList <+: references.flatMap referenceText := by
  have isMark : " NOT NULL".toList = ' ' :: 'N' :: "OT NULL".toList := by decide
  rw [isMark]
  cases references with
  | nil => simp
  | cons first more =>
    rcases second_referenceText first with ⟨rest, isFirst⟩
    simp [isFirst]

/-- Reading a line gives back what has been written into it. -/
theorem label_line {column : Column} {references : List (String × String)}
    (isPlain : (column.label references).IsPlain) :
    label (column.line references).toList = some (column.label references, []) := by
  have endsName (rest : List Char) : Ends isWord (" (".toList ++ rest) := ends_cons.2 (by decide)
  have endsType (rest : List Char) : Ends isWord (')' :: rest) := ends_cons.2 (by decide)
  have endsSize (rest : List Char) : Ends (· = '(') (')' :: rest) := ends_cons.2 (by decide)
  simp only [toList_line, label, bind_eq_some, pure_eq_some]
  exact ⟨_, _, flag_ite _ (not_prefix_name isPlain.name _), _, _,
    word_append isPlain.name (endsName _),
    (), _, exactly_append _ _, _, _, readsTypes_twoSizes isPlain.type (endsType _) (endsSize _), (),
    _, mark_cons ')' _,
    _, _, flag_ite _ (not_prefix_references references), _, _,
    many_references isPlain.references, by simp [Column.label],
    rfl⟩

end Scan

/-- The lines of a diagram are those of the columns with what they refer to, and such a line tells
the column and all of its references: whatever words the names are, no other column and no other
references have it. -/
theorem Diagram.lines_unambiguous :
    (∀ tables source layout diagram, ofTables tables source layout = .ok diagram →
      diagram.entities.map Entity.attributes = tables.map fun table =>
        table.columns.zipIdx.map fun item => item.1.line (table.referencesAt tables item.2)) ∧
    ∀ (column other : Column) (references others : List (String × String)),
      (column.label references).IsPlain → (other.label others).IsPlain →
      column.line references = other.line others →
      column.label references = other.label others := by
  constructor
  · intro tables source layout diagram built
    rw [ofTables_eq] at built
    split at built
    · cases built
    · cases built
      exact attributes_placed tables source layout
  · intro column other references others isPlain isOther same
    have read := Scan.label_line isPlain
    rw [same, Scan.label_line isOther] at read
    simpa using read.symm

/-- A key that is called as the mark for keys, with sizes and a reference that is there twice. -/
theorem Diagram.lines_unambiguous_marks :
    let column : Column := ⟨"PK", "decimal(10,2)", true, false, none, none⟩
    let other : Column := { column with isEnum? := some false }
    let references := [("NOT", "NULL"), ("NOT", "NULL")]
    (column.label references).IsPlain ∧ (other.label references).IsPlain ∧
      column.line references =
        "PK: PK (decimal(10,2)) NOT NULL [ref: > NOT.NULL] [ref: > NOT.NULL]" ∧
      column.line references = other.line references ∧
      column.label references = other.label references := by
  intro column other references
  have isType : IsType column.type.toList := by
    have written : column.type.toList = "decimal".toList ++
        ('(' :: "10".toList ++ ',' :: "2".toList ++ [')']) := by
      decide
    rw [written]
    exact .sizedTwice ⟨by decide, by decide⟩ ⟨by decide, by decide⟩ ⟨by decide, by decide⟩
  have isPlain : (column.label references).IsPlain := ⟨⟨by decide, by decide⟩, isType, by decide⟩
  have same : column.line references = other.line references := by decide
  exact ⟨isPlain, isPlain, by decide, same,
    lines_unambiguous.2 column other references references isPlain isPlain same⟩

end Schemagram
