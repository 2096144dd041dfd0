import Schemagram.Proofs.Blocks.Reading
import Schemagram.Proofs.Scan.Printing

/-!
# A text of every schema in blocks

Of the texts that say a schema one can be computed: with short markers, and with every key that
stands in a block on the line of its column.
-/

namespace Schemagram.Blocks

open Text Writing
open Language (append_mem_mul)

/-! ### Lines -/

def dottedText (table column : String) : List Char := table.toList ++ (['.'] ++ column.toList)

def Setting.text : Setting → List Char
  | primaryKey => "pk".toList
  | notNull => "nn".toList
  | target table column =>
    "ref".toList ++ ([':'] ++ ([' '] ++ (['>'] ++ ([' '] ++ dottedText table column))))

def optionsText (settings : List Setting) : List Char :=
  if settings.isEmpty then [] else [' '] ++
    (['['] ++ (join [','] (settings.map Setting.text) ++ [']']))

def Line.text (line : Line) : List Char :=
  line.column.name.toList ++ ([' '] ++ (line.column.type.toList ++ optionsText line.settings))

/-- The columns of a table, each with the target of its first key. -/
def linesOfTable (table : Table) : List Line :=
  table.columns.map fun column => {
    column
    target? := (table.foreignKeys.find? (·.column = column.name)).map fun key =>
      (key.referenceTable, key.referenceColumn) }

def linesText (table : Table) : List Char := join ['\n'] ((linesOfTable table).map Line.text)

/-- The keys of a table can stand on the lines of their columns. -/
structure HasKeysInLines (table : Table) : Prop where
  keys : (linesOfTable table).filterMap Line.key? = table.foreignKeys
  areQuiet : ∀ key ∈ table.foreignKeys, IsQuiet key.referenceTable ∧ IsQuiet key.referenceColumn

theorem hasKeysInLines_of_nil {table : Table} (noKeys : table.foreignKeys = []) :
    HasKeysInLines table := by
  refine ⟨?_, fun key mem => ?_⟩
  · rw [noKeys, List.filterMap_eq_nil_iff]
    intro line mem
    rcases List.mem_map.1 mem with ⟨column, _, rfl⟩
    rw [noKeys]
    rfl
  · rw [noKeys] at mem
    cases mem

/-! ### Statements -/

def blockText (opening : List Char) (name : String) (inside : List Char) : List Char :=
  opening ++ ([' '] ++ (name.toList ++ ([' '] ++ (['\x7b'] ++ (inside ++ ['\x7d'])))))

/-- How a notation prints what it writes in its own way: the members of an enum, and a reference. -/
structure Print where
  members : List String → List Char
  reference : String → ForeignKey → List Char

def Print.text (print : Print) : Statement → List Char
  | .ofEnum name members => blockText "enum".toList name (print.members members)
  | .ofTable table => blockText "Table".toList table.name (linesText table)
  | .ofKey owner key => print.reference owner key

def Print.scriptText (print : Print) (statements : List Statement) : List Char :=
  join ['\n'] (statements.map print.text)

/-! ### The text is one of those that say it -/

theorem dottedText_mem (table column : String) :
    dottedText table column ∈ writtenDotted table column :=
  append_mem_mul (toList_mem_exactly table)
    (append_mem_mul (singleton_mem_mark '.') (toList_mem_exactly column))

/-- The names of a target are not taken for markers. -/
def Setting.IsQuiet : Setting → Prop
  | target table column => Blocks.IsQuiet table ∧ Blocks.IsQuiet column
  | _ => True

theorem Setting.text_mem {setting : Setting} (isQuiet : setting.IsQuiet) :
    setting.text ∈ setting.written := by
  cases setting with
  | primaryKey => exact .inr (toList_mem_keyword "pk")
  | notNull => exact .inr (toList_mem_keyword "nn")
  | target table column =>
    have dotted := append_mem_mul space_mem_blanks (dottedText_mem table column)
    have arrow := append_mem_mul (singleton_mem_mark '>') dotted
    have colon := append_mem_mul (singleton_mem_mark ':') (append_mem_mul space_mem_blanks arrow)
    exact ⟨isQuiet.1, isQuiet.2, append_mem_mul (toList_mem_keyword "ref") (mem_blanks_mul colon)⟩

theorem optionsText_mem {settings : List Setting}
    (areQuiet : ∀ setting ∈ settings, setting.IsQuiet) :
    optionsText settings ∈ writtenOptions settings := by
  unfold optionsText writtenOptions
  split
  · exact Language.nil_mem_one
  · rename_i nonempty
    have inside : join [','] (settings.map Setting.text) ∈ writtenSettings settings :=
      ⟨settings, .refl settings, join_mem_listed (by simpa using nonempty)
        fun setting mem => Setting.text_mem (areQuiet setting mem)⟩
    exact append_mem_mul space_mem_blanks (append_mem_mul (singleton_mem_mark '[')
      (append_mem_mul inside (singleton_mem_mark ']')))

theorem Setting.lineEnd_not_mem_text {setting : Setting} (isNamed : setting.IsNamed) :
    '\n' ∉ setting.text := by
  cases setting with
  | primaryKey => decide
  | notNull => decide
  | target table column =>
    have noEnd : '\n' ∉ table.toList ∧ '\n' ∉ column.toList :=
      ⟨not_mem_of_run isNamed.1.2 (by decide), not_mem_of_run isNamed.2.2 (by decide)⟩
    simp [Setting.text, dottedText, noEnd]

variable {isType : List Char → Prop} {relations : List RelationType} {marks : List Char}

theorem Line.text_mem (areTypes : ∀ type, isType type → IsType type) {line : Line}
    (isReadable : line.IsReadable isType) (areQuiet : ∀ setting ∈ line.settings, setting.IsQuiet) :
    line.text ∈ line.written := by
  have typed := append_mem_mul (toList_mem_exactly line.column.type) (optionsText_mem areQuiet)
  refine ⟨append_mem_mul (toList_mem_exactly line.column.name)
    (append_mem_mul space_mem_blank typed), ?_⟩
  have noEndType : '\n' ∉ line.column.type.toList := by
    have free : Free ['\n'] (exactly line.column.type.toList) :=
      (areTypes _ isReadable.type).free (by decide)
    exact free.not_mem rfl List.mem_cons_self
  have noEndSettings : '\n' ∉ join [','] (line.settings.map Setting.text) := by
    apply not_mem_join (by decide)
    intro piece mem
    rcases List.mem_map.1 mem with ⟨setting, memSettings, rfl⟩
    exact Setting.lineEnd_not_mem_text (isReadable.areNamed setting memSettings)
  have noEndOptions : '\n' ∉ optionsText line.settings := by
    unfold optionsText
    split
    · exact List.not_mem_nil
    · simp [noEndSettings]
  have noEndName : '\n' ∉ line.column.name.toList := not_mem_of_run isReadable.name.2 (by decide)
  simp [Line.text, noEndName, noEndType, noEndOptions]

theorem join_mem_onLines {Item : Type} {language : Item → Language Char} {print : Item → List Char}
    {items : List Item} (prints : ∀ item ∈ items, print item ∈ language item) :
    join ['\n'] (items.map print) ∈ onLines (items.map language) := by
  apply join_mem (fun written => mem_blanks_mul (mem_mul_blanks written)) _
    (fun _ => nil_mem_blanks) prints
  intro item second more text rest written isRest
  have behind := mem_blanks_mul (append_mem_mul (singleton_mem_mark '\n') isRest)
  have whole := mem_blanks_mul (append_mem_mul written behind)
  rw [← List.append_assoc] at whole
  exact whole

theorem join_mem_script {Item : Type} {language : Item → Language Char} {print : Item → List Char}
    {items : List Item} (prints : ∀ item ∈ items, print item ∈ language item) :
    join ['\n'] (items.map print) ∈ script (items.map language) := by
  apply join_mem (fun written => mem_blanks_mul (mem_mul_blanks written)) _
    (fun _ => nil_mem_blanks) prints
  intro item second more text rest written isRest
  have whole := mem_blanks_mul (append_mem_mul written (append_mem_mul lineEnd_mem_blank isRest))
  rw [← List.append_assoc] at whole
  exact whole

theorem linesText_mem (areTypes : ∀ type, isType type → IsType type) {table : Table}
    (isTable : IsTable isType relations table) (inLines : HasKeysInLines table) :
    linesText table ∈ writtenLines table := by
  have sameColumns : (linesOfTable table).map Line.column = table.columns := by
    rw [linesOfTable, List.map_map]
    exact List.map_id table.columns
  refine ⟨linesOfTable table, sameColumns, inLines.keys, join_mem_onLines fun line mem => ?_⟩
  apply Line.text_mem areTypes (isTable.isReadable_lines sameColumns inLines.keys line mem)
  intro setting memSettings
  cases setting with
  | target other column =>
    have isKey : ⟨line.column.name, other, column, some .oneToMany⟩ ∈ table.foreignKeys := by
      rw [← inLines.keys]
      refine List.mem_filterMap.2 ⟨line, mem, ?_⟩
      rw [Line.key?, target_mem_settings.1 memSettings]
      rfl
    exact inLines.areQuiet _ isKey
  | _ => trivial

theorem blockText_mem {opening inside : List Char} {before body : Language Char} (name : String)
    (isOpening : opening ∈ before) (isInside : inside ∈ body) :
    blockText opening name inside ∈ writtenBlock before name body := by
  have braces := append_mem_mul (singleton_mem_mark '\x7b')
    (append_mem_mul isInside (singleton_mem_mark '\x7d'))
  have named := append_mem_mul (toList_mem_exactly name) (append_mem_mul space_mem_blanks braces)
  exact append_mem_mul isOpening (append_mem_mul space_mem_blank named)

/-- Every schema can be written in a style whose members and references are printed in it. -/
theorem Print.scriptText_mem {print : Print} {style : Style}
    (areTypes : ∀ type, isType type → IsType type) {statements : List Statement}
    (areReadable : ∀ statement ∈ statements, statement.IsReadable isType relations marks)
    (opening : "Table".toList ∈ style.opening)
    (members : ∀ name members, .ofEnum name members ∈ statements →
      print.members members ∈ style.members members)
    (lines : ∀ table, .ofTable table ∈ statements → HasKeysInLines table ∧
      (linesText table ∈ writtenLines table → linesText table ∈ style.lines table))
    (references : ∀ owner key, .ofKey owner key ∈ statements →
      print.reference owner key ∈ style.reference owner key) :
    print.scriptText statements ∈ script (statements.map style.written) := by
  apply join_mem_script
  intro statement mem
  cases statement with
  | ofEnum name enumMembers =>
    exact blockText_mem name (toList_mem_keyword "enum") (members name enumMembers mem)
  | ofTable table =>
    have isTable : IsTable isType relations table := areReadable _ mem
    exact blockText_mem table.name opening
      ((lines table mem).2 (linesText_mem areTypes isTable (lines table mem).1))
  | ofKey owner key => exact references owner key mem

end Schemagram.Blocks
