import Schemagram.Proofs.Blocks.Printing

/-!
# How a schema is written in shorthand

Enums list their members between commas.  A key stands in the options of its column, or it is a
reference of its own between two dotted columns, in either direction and with or without a word
before it.
-/

namespace Schemagram.Shorthand

open Text Writing Blocks
open Language (append_mem_mul)

/-- The marks that members do without. -/
def marks : List Char := ['\'', '"', ',', '\x7b', '\x7d', '<', '>']

/-- The members of an enum with commas between them; an enum may have none. -/
def writtenMembers (members : List String) : Language Char :=
  if members.isEmpty then blanks else listed (members.map fun member => exactly member.toList)

/-- The word that may stand before a reference. -/
def writtenIntroduction : Language Char := 1 + (keyword "ref:" + keyword "fk:") * blanks

/-- Two dotted columns with an arrow between them. -/
def writtenArrow (left : Language Char) (arrow : Char) (right : Language Char) : Language Char :=
  left * (blanks * (mark arrow * (blanks * right)))

/-- A reference from the column of the owner to the column that the key names. -/
def writtenReference (owner : String) (key : ForeignKey) : Language Char :=
  writtenIntroduction *
    (writtenArrow (writtenDotted owner key.column) '>'
      (writtenDotted key.referenceTable key.referenceColumn) +
      writtenArrow (writtenDotted key.referenceTable key.referenceColumn) '<'
        (writtenDotted owner key.column))

def style : Style where
  opening := exactly "Table".toList
  members := writtenMembers
  lines := writtenLines
  reference := writtenReference

/-- The relations that a reference can say. -/
def relations : List RelationType := [.oneToMany]

/-- Statements of a schema that can be written in this dialect. -/
def IsSchema (statements : List Statement) :
    Prop := Blocks.IsSchema HasOneSize relations marks statements

/-! ### A text of every schema -/

/-- How what only this dialect writes is printed. -/
def print : Print where
  members members := join [','] (members.map String.toList)
  reference owner key :=
    "ref:".toList ++ ([' '] ++ (dottedText owner key.column ++ ([' '] ++
      (['>'] ++ ([' '] ++ dottedText key.referenceTable key.referenceColumn)))))

theorem reference_mem (owner : String) (key : ForeignKey) :
    print.reference owner key ∈ style.reference owner key := by
  have target := append_mem_mul space_mem_blanks
    (dottedText_mem key.referenceTable key.referenceColumn)
  have arrow := append_mem_mul space_mem_blanks (append_mem_mul (singleton_mem_mark '>') target)
  have introduction : "ref:".toList ++ [' '] ∈ writtenIntroduction :=
    .inr (append_mem_mul (.inl (toList_mem_keyword "ref:")) space_mem_blanks)
  have forward := append_mem_mul (dottedText_mem owner key.column) arrow
  have whole : ("ref:".toList ++ [' ']) ++ _ ∈ writtenReference owner key :=
    append_mem_mul introduction (.inl forward)
  rw [List.append_assoc] at whole
  exact whole

/-- Every schema can be written whose keys stand on the lines of their columns or in references. -/
theorem scriptText_mem {statements : List Statement} (isSchema : IsSchema statements)
    (inLines : ∀ table, .ofTable table ∈ statements → HasKeysInLines table) :
    print.scriptText statements ∈ script (statements.map style.written) := by
  apply Print.scriptText_mem (fun _ isType => isType.1) (Blocks.IsSchema.isReadable isSchema)
    (toList_mem_exactly "Table")
  · intro name members _
    change join [','] (members.map String.toList) ∈ writtenMembers members
    unfold writtenMembers
    split
    · rename_i isEmpty
      rw [List.isEmpty_iff.1 isEmpty]
      exact nil_mem_blanks
    · rename_i nonempty
      exact join_mem_listed (by simpa using nonempty) fun member _ => toList_mem_exactly member
  · intro table mem
    exact ⟨inLines table mem, id⟩
  · intro owner key _
    exact reference_mem owner key

end Schemagram.Shorthand
