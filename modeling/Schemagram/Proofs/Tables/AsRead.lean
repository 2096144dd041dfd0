import Schemagram.Proofs.Scan.Forms
import Schemagram.Schema

/-!
# Tables as they are scanned

Whatever the text and whatever the dialect, the names a scan returns are words, the types it returns
have one of three forms, and the enums are left open.
-/

namespace Schemagram

open Text Scan

/-! ### Forms -/

/-- A run of at least one decimal digit. -/
def IsDigits (text : List Char) : Prop := text ≠ [] ∧ ∀ char ∈ text, isDecimal char = true

instance (text : List Char) : Decidable (IsDigits text) :=
  inferInstanceAs (Decidable (text ≠ [] ∧ ∀ char ∈ text, isDecimal char = true))

/-- A word, which may have one or two sizes in parentheses behind it. -/
inductive IsType : List Char → Prop where
  | plain {base : List Char} (isWord : IsWord base) : IsType base
  | sized {base first : List Char} (isWord : IsWord base) (isFirst : IsDigits first) :
      IsType (base ++ ('(' :: first ++ [')']))
  | sizedTwice {base first second : List Char} (isWord : IsWord base) (isFirst : IsDigits first)
      (isSecond : IsDigits second) : IsType (base ++ ('(' :: first ++ ',' :: second ++ [')']))

/-- A column as a scan reads it, before enums are attached. -/
structure Column.AsRead (column : Column) : Prop where
  name : IsWord column.name.toList
  type : IsType column.type.toList
  isEnum : column.isEnum? = none
  enumValues : column.enumValues? = none

/-- A table as it is read, before keys are dropped and enums are attached. -/
structure Table.AsRead (table : Table) : Prop where
  name : IsWord table.name.toList
  columns : ∀ column ∈ table.columns, column.AsRead
  keys : ∀ key ∈ table.foreignKeys, IsWord key.column.toList

namespace Scan

theorem isWord_of_quotedName {text rest : List Char} {name : String}
    (read : Sql.quotedName text = some (name, rest)) : IsWord name.toList := by
  simp only [Sql.quotedName, bind_eq_some, pure_eq_some] at read
  rcases read with ⟨_, _, _, found, _, wordRead, _, _, _, rfl, _⟩
  exact (word_eq_some.1 wordRead).2.1

theorem precision_eq_some {second : Scan (List Char)} {text sizes rest : List Char}
    (read : precision second text = some (sizes, rest)) :
    ∃ digits more, IsDigits digits ∧ sizes = '(' :: digits ++ more ++ [')'] ∧
      ∃ before after, second before = some (more, after) := by
  simp only [precision, bind_eq_some, mark_eq_some, someRun_eq_some, pure_eq_some] at read
  rcases read with ⟨_, _, _, digits, after, ⟨_, nonempty, isRun, _⟩, more, _, secondRead, _,
    _, _, rfl, _⟩
  exact ⟨digits, more, ⟨nonempty, isRun⟩, rfl, _, _, secondRead⟩

theorem secondDigits_eq_some {text more rest : List Char}
    (read : secondDigits text = some (more, rest)) :
    more = [] ∨ ∃ digits, IsDigits digits ∧ more = ',' :: digits := by
  simp only [secondDigits, orElse_eq_some, bind_eq_some, mark_eq_some, someRun_eq_some,
    pure_eq_some] at read
  rcases read with ⟨_, _, _, digits, _, ⟨_, nonempty, isRun, _⟩, rfl, _⟩ | ⟨_, rfl, _⟩
  · exact .inr ⟨digits, ⟨nonempty, isRun⟩, rfl⟩
  · exact .inl rfl

/-- A type has one of the three forms when the second size is missing or a comma with digits. -/
theorem isType_of_type {second : Scan (List Char)}
    (seconds : ∀ text more rest, second text = some (more, rest) →
      more = [] ∨ ∃ digits, IsDigits digits ∧ more = ',' :: digits)
    {text rest : List Char} {type : String}
    (read : Scan.type (precision second) text = some (type, rest)) : IsType type.toList := by
  simp only [Scan.type, bind_eq_some, orElse_eq_some, pure_eq_some] at read
  rcases read with ⟨base, _, baseRead, sizes, _, sizesRead, rfl, _⟩
  have isBase := (word_eq_some.1 baseRead).2.1
  rw [String.toList_append, String.toList_ofList]
  rcases sizesRead with sizesRead | ⟨_, rfl, _⟩
  · rcases precision_eq_some sizesRead with ⟨first, more, isFirst, rfl, before, after, secondRead⟩
    rcases seconds _ _ _ secondRead with rfl | ⟨second, isSecond, rfl⟩
    · simpa using IsType.sized isBase isFirst
    · simpa using IsType.sizedTwice isBase isFirst isSecond
  · simpa using IsType.plain isBase

theorem isType_of_oneSize {text rest : List Char} {type : String}
    (read : Scan.type (precision (pure [])) text = some (type, rest)) : IsType type.toList :=
  isType_of_type (fun _ _ _ empty => .inl (pure_eq_some.1 empty).1.symm) read

theorem isType_of_twoSizes {text rest : List Char} {type : String}
    (read : Scan.type (precision secondDigits) text = some (type, rest)) : IsType type.toList :=
  isType_of_type (fun _ _ _ second => secondDigits_eq_some second) read

end Scan

/-! ### Tables as they are read -/

theorem Sql.asRead_column {fragment : List Char} {column : Column}
    (found : search Sql.column fragment = some column) : column.AsRead := by
  rcases search_eq_some found with ⟨suffix, rest, read⟩
  simp only [Sql.column, bind_eq_some, pure_eq_some] at read
  rcases read with ⟨name, _, nameRead, _, _, _, type, _, typeRead, _, _, _, _, _, _, rfl, _⟩
  exact ⟨isWord_of_quotedName nameRead, isType_of_twoSizes typeRead, rfl, rfl⟩

theorem Sql.isWord_of_foreignKey {fragment : List Char} {key : ForeignKey}
    (found : search Sql.foreignKey fragment = some key) : IsWord key.column.toList := by
  rcases search_eq_some found with ⟨suffix, rest, read⟩
  simp only [Sql.foreignKey, Sql.inParentheses, bind_eq_some, pure_eq_some] at read
  rcases read with ⟨_, _, _, column, _, columnRead, _, _, _, _, _, _, _, _, _, _, _, _, _,
    _, _, rfl, _⟩
  rcases columnRead with ⟨_, _, _, _, _, _, _, _, _, name, _, nameRead, _, _, _, _, _, _, rfl, _⟩
  exact isWord_of_quotedName nameRead

theorem Sql.asRead_of_fragmentOf {fragment : List Char} {column : Column}
    (read : fragmentOf fragment = .ofColumn column) : column.AsRead := by
  unfold fragmentOf at read
  split at read
  · cases read
  · split at read
    · rename_i found
      cases read
      exact Sql.asRead_column found
    · cases read

theorem Sql.isWord_of_fragmentOf {fragment : List Char} {key : ForeignKey}
    (read : fragmentOf fragment = .ofKey key) : IsWord key.column.toList := by
  unfold fragmentOf at read
  split at read
  · rename_i found
    cases read
    exact Sql.isWord_of_foreignKey found
  · split at read <;> cases read

theorem Sql.asRead_tables (text : List Char) : ∀ table ∈ Sql.tables text, table.AsRead := by
  intro table mem
  rcases List.mem_map.1 mem with ⟨⟨name, body⟩, found, rfl⟩
  rcases of_mem_all found with ⟨suffix, rest, read⟩
  simp only [Sql.tableStatement, bind_eq_some, pure_eq_some] at read
  rcases read with
    ⟨_, _, _, _, _, _, _, _, _, _, _, _, name, _, nameRead, _, _, _, _, _, _, _, _, _, same, _⟩
  cases same
  refine ⟨isWord_of_quotedName nameRead, ?_, ?_⟩
  · intro column mem
    rcases List.mem_filterMap.1 mem with ⟨fragment, memFragment, isColumn⟩
    rcases List.mem_map.1 memFragment with ⟨piece, _, read⟩
    cases fragment with
    | ofColumn found =>
      cases isColumn
      exact Sql.asRead_of_fragmentOf read
    | ofKey key => cases isColumn
    | nothing => cases isColumn
  · intro key mem
    rcases List.mem_filterMap.1 mem with ⟨fragment, memFragment, isKey⟩
    rcases List.mem_map.1 memFragment with ⟨piece, _, read⟩
    cases fragment with
    | ofKey found =>
      cases isKey
      exact Sql.isWord_of_fragmentOf read
    | ofColumn column => cases isKey
    | nothing => cases isKey

theorem isWord_of_block {keyword : Scan Unit} {text inside rest : List Char} {name : String}
    (read : block keyword text = some ((name, inside), rest)) : IsWord name.toList := by
  simp only [block, bind_eq_some, pure_eq_some] at read
  rcases read with ⟨_, _, _, _, _, _, _, _, nameRead, _, _, _, _, _, _, same, _⟩
  cases same
  exact (word_eq_some.1 nameRead).2.1

theorem isWord_of_dotted {text rest : List Char} {path : String × String}
    (read : dotted text = some (path, rest)) : IsWord path.2.toList := by
  simp only [dotted, bind_eq_some, pure_eq_some] at read
  rcases read with ⟨_, _, _, _, _, _, _, _, columnRead, rfl, _⟩
  exact (word_eq_some.1 columnRead).2.1

theorem asRead_of_columnOf {precision : Scan (List Char)}
    (types : ∀ text type rest, Scan.type precision text = some (type, rest) → IsType type.toList)
    {line : List Char} {column : Column} (found : columnOf precision line = some column) :
    column.AsRead := by
  rcases search_eq_some found with ⟨suffix, rest, read⟩
  simp only [Scan.column, bind_eq_some, pure_eq_some] at read
  rcases read with ⟨name, _, nameRead, _, _, _, type, _, typeRead, _, _, _, _, _, _, rfl, _⟩
  exact ⟨(word_eq_some.1 nameRead).2.1, types _ _ _ typeRead, rfl, rfl⟩

theorem Dbml.asRead_tables (text : List Char) : ∀ table ∈ Dbml.tables text, table.AsRead := by
  intro table mem
  rcases List.mem_map.1 mem with ⟨⟨name, inside⟩, found, rfl⟩
  rcases of_mem_all found with ⟨suffix, rest, read⟩
  refine ⟨isWord_of_block read, ?_, by simp⟩
  intro column mem
  rcases List.mem_filterMap.1 mem with ⟨line, _, isColumn⟩
  exact asRead_of_columnOf (fun _ _ _ => isType_of_twoSizes) isColumn

theorem Dbml.isWord_of_reference {text : List Char} {reference : Dbml.Reference}
    (mem : reference ∈ Dbml.references text) : IsWord reference.key.column.toList := by
  rcases of_mem_all mem with ⟨suffix, rest, read⟩
  simp only [Dbml.reference, bind_eq_some, pure_eq_some] at read
  rcases read with ⟨_, _, _, _, _, _, left, _, _, _, _, _, _, _, _, _, _, _, right, _,
    rightRead, rfl, _⟩
  exact isWord_of_dotted rightRead

theorem Shorthand.asRead_column {line : List Char} {column : Column}
    (found : Shorthand.column? line = some column) : column.AsRead :=
  asRead_of_columnOf (fun _ _ _ => isType_of_oneSize) found

theorem Shorthand.column_of_keyOf? {column : String} {target : Target} {key : ForeignKey}
    (isKey : keyOf? column target = some key) : key.column = column := by
  unfold keyOf? at isKey
  split at isKey
  · cases isKey
    rfl
  · cases isKey

theorem Shorthand.isWord_of_lineKey? {line : List Char} {key : ForeignKey}
    (isKey : lineKey? line (column? line) = some key) : IsWord key.column.toList := by
  unfold lineKey? at isKey
  split at isKey
  · rename_i column target found
    rcases search_eq_some found with ⟨suffix, rest, read⟩
    simp only [inlineReference, bind_eq_some, pure_eq_some] at read
    rcases read with ⟨_, _, _, _, _, _, name, _, nameRead, _, _, _, same, _⟩
    cases same
    rw [column_of_keyOf? isKey]
    exact (word_eq_some.1 nameRead).2.1
  · simp only [Option.bind_eq_bind, Option.bind_eq_some_iff] at isKey
    rcases isKey with ⟨column, isColumn, target, _, isKey⟩
    rw [column_of_keyOf? isKey]
    exact (Shorthand.asRead_column isColumn).name

theorem Shorthand.asRead_tables (text : List Char) :
    ∀ table ∈ Shorthand.tables text, table.AsRead := by
  intro table mem
  rcases List.mem_map.1 mem with ⟨⟨name, inside⟩, found, rfl⟩
  rcases of_mem_all found with ⟨suffix, rest, read⟩
  refine ⟨isWord_of_block read, ?_, ?_⟩
  · intro column mem
    rcases List.mem_filterMap.1 mem with ⟨line, _, isColumn⟩
    exact Shorthand.asRead_column isColumn
  · intro key mem
    rcases List.mem_filterMap.1 mem with ⟨line, _, isKey⟩
    exact Shorthand.isWord_of_lineKey? isKey

theorem Shorthand.isWord_of_reference {text : List Char} {written : List Char × Shorthand.Reference}
    (mem : written ∈ Shorthand.references text) : IsWord written.2.key.column.toList := by
  rcases of_mem_all mem with ⟨suffix, rest, read⟩
  simp only [withText, Option.map_eq_some_iff] at read
  rcases read with ⟨⟨reference, after⟩, read, same⟩
  cases same
  simp only [Shorthand.reference, bind_eq_some, pure_eq_some] at read
  rcases read with
    ⟨_, _, _, _, _, _, left, _, leftRead, _, _, _, arrow, _, _, _, _, _, right, _,
      rightRead, rfl, _⟩
  simp only [Reference.key, Reference.source]
  split
  · exact isWord_of_dotted leftRead
  · exact isWord_of_dotted rightRead

end Schemagram
