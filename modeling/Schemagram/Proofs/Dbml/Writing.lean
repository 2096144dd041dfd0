import Schemagram.Proofs.Blocks.Printing
import Schemagram.Proofs.Scan.Search

/-!
# How a schema is written in DBML

Enums have one member on a line, and every key is a reference of its own, which belongs to the
column on the right.  The word before a block and the one before a reference stand in any case.
-/

namespace Schemagram.Dbml

open Text Writing Blocks
open Language (append_mem_mul)

/-- The marks that members do without. -/
def marks : List Char := ['\'', '"', ',', ':', '\x7b', '\x7d', '\n']

/-- The arrow of a relation.  One for many points to either side. -/
def writtenArrow : Option RelationType → Language Char
  | some .oneToOne => mark '-'
  | some .oneToMany => mark '<' + mark '>'
  | _ => 0

/-- A reference from a column of the owner, on the right, to the column on the left. -/
def writtenReference (owner : String) (key : ForeignKey) : Language Char :=
  keyword "ref:" * (blanks * (writtenDotted key.referenceTable key.referenceColumn * (blanks *
    (writtenArrow key.relation? * (blanks * writtenDotted owner key.column)))))

/-- The members of an enum on lines of their own. -/
def writtenMembers (members : List String) : Language Char :=
  onLines (members.map fun member => exactly member.toList)

/-- The lines of a table without keys; in this dialect no key stands in a block. -/
def linesWithoutKeys (table : Table) : Language Char :=
  {text | table.foreignKeys = [] ∧ text ∈ writtenLines table}

def style : Style where
  opening := keyword "Table"
  members := writtenMembers
  lines := linesWithoutKeys
  reference := writtenReference

/-- The relations that an arrow can say. -/
def relations : List RelationType := [.oneToOne, .oneToMany]

/-- Statements of a schema that can be written in this dialect. -/
def IsSchema (statements : List Statement) :
    Prop := Blocks.IsSchema IsType relations marks statements

/-! ### A text of every schema -/

/-- How what only this dialect writes is printed. -/
def print : Print where
  members members := join ['\n'] (members.map String.toList)
  reference owner key :=
    "Ref:".toList ++ ([' '] ++ (dottedText key.referenceTable key.referenceColumn ++ ([' '] ++
      ([if key.relation? = some .oneToOne then '-' else '<'] ++
        ([' '] ++ dottedText owner key.column)))))

theorem reference_mem (owner : String) {key : ForeignKey}
    (isReference : IsReference relations key) :
    print.reference owner key ∈ style.reference owner key := by
  have arrow : [if key.relation? = some .oneToOne then '-' else '<'] ∈ writtenArrow
      key.relation? := by
    rcases isReference.relation with ⟨relation, isRelation, same⟩
    rw [same]
    rcases List.mem_pair.1 isRelation with rfl | rfl
    · exact singleton_mem_mark '-'
    · exact .inl (singleton_mem_mark '<')
  have right := append_mem_mul arrow
    (append_mem_mul space_mem_blanks (dottedText_mem owner key.column))
  have left := append_mem_mul (dottedText_mem key.referenceTable key.referenceColumn)
    (append_mem_mul space_mem_blanks right)
  exact append_mem_mul (mem_keyword.2 (by decide)) (append_mem_mul space_mem_blanks left)

/-- Every schema without keys in its blocks can be written. -/
theorem scriptText_mem {statements : List Statement} (isSchema : IsSchema statements)
    (noKeys : ∀ table, .ofTable table ∈ statements → table.foreignKeys = []) :
    print.scriptText statements ∈ script (statements.map style.written) := by
  have areReadable := Blocks.IsSchema.isReadable isSchema
  apply Print.scriptText_mem (fun _ => id) areReadable (toList_mem_keyword "Table")
  · intro name members _
    exact join_mem_onLines fun member _ => toList_mem_exactly member
  · intro table mem
    exact ⟨hasKeysInLines_of_nil (noKeys table mem), fun isWritten => ⟨noKeys table mem, isWritten⟩⟩
  · intro owner key mem
    exact reference_mem owner (areReadable _ mem).2

end Schemagram.Dbml
