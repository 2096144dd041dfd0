import Schemagram.Proofs.Blocks.Finding
import Schemagram.Proofs.Blocks.Printing
import Schemagram.Proofs.Scan.Parts
import Schemagram.Proofs.Sql.Body
import Schemagram.Proofs.Sql.Printing
import Schemagram.Schema

/-!
# Documents of complete blocks

A document has complete blocks of tables on lines of their own.  The body of a block is any text
that does without the mark at the end of the block, so that it may hold whatever looks like a
further block, a reference or a comment.  No enum is found in a document in which the word for it
stands nowhere.
-/

namespace Schemagram

open Text Writing Blocks
open Scan hiding keyword mark
open Language (append_mem_mul)

/-! ### Documents -/

/-- How the block of a table is written around its body. -/
def Dialect.writtenTable : Dialect → String → List Char → Language Char
  | .sql, name, body => Sql.writtenStatement name (exactly body)
  | .dbml, name, body => writtenBlock (keyword "Table") name (exactly body)
  | .shorthand, name, body => writtenBlock (exactly "Table".toList) name (exactly body)

/-- The mark at the end of a block. -/
def Dialect.closing : Dialect → Char
  | .sql => ';'
  | .dbml => '\x7d'
  | .shorthand => '\x7d'

/-- A complete block of a table.  Its body is any text without the mark at the end. -/
structure TableBlock (dialect : Dialect) where
  name : String
  body : List Char
  text : List Char
  isName : IsWord name.toList
  isBody : dialect.closing ∉ body
  isWritten : text ∈ dialect.writtenTable name body

/-- A block with no more white space than a reader expects. -/
def Dialect.tableText : Dialect → String → List Char → List Char
  | .sql, name, body =>
    "CREATE".toList ++ ([' '] ++ ("TABLE".toList ++ ([' '] ++ (name.toList ++ ([' '] ++
      (['('] ++ (body ++ ([')'] ++ [';']))))))))
  | .dbml, name, body => blockText "Table".toList name body
  | .shorthand, name, body => blockText "Table".toList name body

theorem Dialect.tableText_mem (dialect : Dialect) (name : String) (body : List Char) :
    dialect.tableText name body ∈ dialect.writtenTable name body := by
  cases dialect with
  | sql =>
    have ending := append_mem_mul (singleton_mem_mark ')') (mem_blanks_mul (singleton_mem_mark ';'))
    have inside := append_mem_mul (singleton_mem_mark '(')
      (append_mem_mul (mem_exactly.2 (Eq.refl body)) ending)
    have named := append_mem_mul (Sql.toList_mem_writtenName name)
      (append_mem_mul space_mem_blanks inside)
    exact append_mem_mul (toList_mem_keyword "CREATE") (append_mem_mul space_mem_blank
      (append_mem_mul (toList_mem_keyword "TABLE") (append_mem_mul space_mem_blank named)))
  | dbml => exact blockText_mem name (toList_mem_keyword "Table") (mem_exactly.2 rfl)
  | shorthand => exact blockText_mem name (toList_mem_exactly "Table") (mem_exactly.2 rfl)

/-- The block of a name and a body. -/
def TableBlock.ofBody (dialect : Dialect) (name : String) (body : List Char)
    (isName : IsWord name.toList) (isBody : dialect.closing ∉ body) : TableBlock dialect :=
  ⟨name, body, dialect.tableText name body, isName, isBody, dialect.tableText_mem name body⟩

namespace TableBlock

variable {dialect : Dialect} {blocks others : List (TableBlock dialect)}

/-- Blocks on lines of their own. -/
def document (blocks : List (TableBlock dialect)) : List Char := join ['\n'] (blocks.map text)

/-- A scan that goes through a document block by block finds what it finds in each of them. -/
theorem all_document {Found : Type} {scan : Scan Found} {finds : TableBlock dialect → List Found}
    (nothing : ∀ front ∈ blanks, all scan front = [])
    (each : ∀ block : TableBlock dialect, ∀ front ∈ blanks, ∀ rest,
      all scan (front ++ (block.text ++ rest)) = finds block ++ all scan rest)
    (blocks : List (TableBlock dialect)) : all scan (document blocks) = blocks.flatMap finds := by
  have behind (front : List Char) (isFront : front ∈ blanks) :
      all scan (front ++ document blocks) = blocks.flatMap finds := by
    induction blocks generalizing front with
    | nil =>
      change all scan (front ++ []) = []
      rw [List.append_nil, nothing front isFront]
    | cons first more ih =>
      cases more with
      | nil =>
        have last := each first front isFront []
        rwa [List.append_nil, all] at last
      | cons second more =>
        have lineEnd : ['\n'] ∈ blanks := by
          intro char mem
          rw [List.mem_singleton.1 mem]
          rfl
        change all scan (front ++ ((first.text ++ ['\n']) ++ document (second :: more))) = _
        rw [List.append_assoc, each first front isFront, ih ['\n'] lineEnd]
        rfl
  exact behind [] nil_mem_blanks

/-- A part that holds no line end stands in a document if it stands in one of its blocks. -/
theorem infix_document_iff {part : List Char} (nonempty : part ≠ []) (noLineEnd : '\n' ∉ part) :
    part <:+: (document blocks).map small ↔ ∃ block ∈ blocks, part <:+: block.text.map small := by
  have sameEnd : (['\n'] : List Char).map small = ['\n'] := rfl
  rw [document, map_join, sameEnd]
  constructor
  · intro isPart
    rcases exists_of_infix_join nonempty noLineEnd isPart with ⟨piece, isPiece, inPiece⟩
    simp only [List.map_map, List.mem_map] at isPiece
    rcases isPiece with ⟨block, mem, rfl⟩
    exact ⟨block, mem, inPiece⟩
  · rintro ⟨block, mem, inBlock⟩
    exact inBlock.trans (infix_join _ (List.mem_map_of_mem (List.mem_map_of_mem mem)))

/-- A document without enums: the word stands nowhere in it, in no case. -/
def HasNoEnum (blocks : List (TableBlock dialect)) :
    Prop := ¬"enum".toList <:+: (document blocks).map small

theorem HasNoEnum.perm (noEnum : HasNoEnum blocks) (perm : blocks.Perm others) :
    HasNoEnum others := by
  intro isPart
  apply noEnum
  rw [infix_document_iff (by decide) (by decide)] at isPart ⊢
  simpa only [perm.mem_iff] using isPart

end TableBlock

/-! ### Enums -/

/-- Every block has its opening word. -/
theorem needs_block (word : String) : Needs word (block (Scan.keyword word)) :=
  (needs_keyword word).bind _

theorem Sql.needs_enumStatement : Needs "ENUM" enumStatement :=
  (takes_letters (by decide)).needs fun _ => takes_blank.needs fun _ =>
    (takes_letters (by decide)).needs fun _ =>
    takes_blank.needs fun _ => (takes_word ne_semicolon_of_isWord).needs fun _ =>
      takes_blank.needs fun _ =>
      (takes_letters (by decide)).needs fun _ => takes_blank.needs fun _ =>
        (needs_keyword "ENUM").bind _

/-- The enums of a text. -/
def Dialect.enums : Dialect → List Char → Enums
  | .sql => Sql.enums
  | .dbml => Dbml.enums
  | .shorthand => Shorthand.enums

/-- No enum is found in a text in which the word does not stand in any case. -/
theorem Dialect.enums_eq_nil {dialect : Dialect} {text : List Char}
    (absent : ¬"enum".toList <:+: text.map small) : dialect.enums text = [] := by
  have notFound {Found : Type} {scan : Scan Found} {word : String} (needs : Needs word scan)
      (same : word.toList.map small = "enum".toList) : all scan text = [] := by
    have basic : ∀ letter ∈ word.toList, small letter ∉ ['k', 's', 'i'] := by
      intro letter mem
      have inWord := List.mem_map_of_mem (f := small) mem
      rw [same] at inWord
      exact (by decide : ∀ char ∈ "enum".toList, char ∉ ['k', 's', 'i']) _ inWord
    refine needs.all_eq_nil fun written spelled isPart => absent ?_
    rw [← same, ← mem_keyword.1 (keyword_of_isSpelling basic spelled)]
    exact isPart.map small
  cases dialect with
  | sql =>
    change Keyed.ofPairs ((all Sql.enumStatement text).map _) = []
    rw [notFound Sql.needs_enumStatement (by decide)]
    rfl
  | dbml =>
    change Keyed.ofPairs ((all (block (Scan.keyword "Enum")) text).map _) = []
    rw [notFound (needs_block "Enum") (by decide)]
    rfl
  | shorthand =>
    change Keyed.ofPairs ((all (block (Scan.keyword "enum")) text).map _) = []
    rw [notFound (needs_block "enum") (by decide)]
    rfl

end Schemagram
