import Schemagram.Proofs.Dbml.RoundTrip
import Schemagram.Proofs.Dialect.Document
import Schemagram.Proofs.Scan.Marks
import Schemagram.Proofs.Shorthand.RoundTrip
import Schemagram.Proofs.Sql.RoundTrip
import Schemagram.Proofs.Tables.Order

/-!
# The order of blocks does not matter

A document is read block by block, whatever the bodies hold: no pattern reaches over the end of a
block, and none begins in what stands before its body.  So the blocks may stand in any order, and a
reference may come before or after the table that it leads to.
-/

namespace Schemagram

open Text Writing Blocks
open Scan hiding keyword mark

/-! ### References stop at braces -/

theorem Dbml.stopsAt_reference {stop : Char} (isBrace : stop ∈ blockMarks) :
    StopsAt stop reference := by
  have refused : ∀ stop ∈ blockMarks, (∀ letter ∈ "ref:".toList, isSameLetter letter stop = false) ∧
      isSpace stop = false ∧ isWord stop = false ∧ '.' ≠ stop ∧
        (stop = '<' || stop = '-' || stop = '>') = false := by decide
  rcases refused stop isBrace with ⟨noLetter, noSpace, noWord, noDot, noArrow⟩
  have gap := stopsAt_spaces noSpace
  have path := stopsAt_dotted noWord noDot
  exact (stopsAt_literal noLetter).bind fun _ => gap.bind fun _ => path.bind fun _ =>
    gap.bind fun _ =>
    (stopsAt_one noArrow).bind fun _ => gap.bind fun _ => path.bind fun _ => stopsAt_pure stop _

theorem Shorthand.stopsAt_reference {stop : Char} (isBrace : stop ∈ blockMarks) :
    StopsAt stop reference := by
  have refused : ∀ stop ∈ blockMarks, (∀ letter ∈ "ref:".toList, isSameLetter letter stop = false) ∧
      (∀ letter ∈ "fk:".toList, isSameLetter letter stop = false) ∧
      isSpace stop = false ∧ isWord stop = false ∧ '.' ≠ stop ∧
      (stop = '<' || stop = '>') = false := by
    decide
  rcases refused stop isBrace with ⟨noRef, noKey, noSpace, noWord, noDot, noArrow⟩
  have introduced : StopsAt stop introduction :=
    ((stopsAt_literal noRef).orElse (stopsAt_literal noKey)).optionally
  have gap := stopsAt_spaces noSpace
  have path := stopsAt_dotted noWord noDot
  exact introduced.bind fun _ => gap.bind fun _ => path.bind fun _ => gap.bind fun _ =>
    (stopsAt_one noArrow).bind fun _ => gap.bind fun _ => path.bind fun _ => stopsAt_pure stop _

/-! ### Blocks in braces -/

namespace TableBlock

section Braces

variable {dialect : Dialect} {language : Language Char}

/-- The blocks of a document are found in their order. -/
theorem blocks_document {same : Char → Char → Bool} {expected : List Char}
    (isWritten : ∀ block : TableBlock dialect,
      block.text ∈ writtenBlock language block.name (exactly block.body))
    (noEnd : ∀ block : TableBlock dialect, '\x7d' ∉ block.body)
    (letters : ∀ written, Spelled same expected written → IsWord written)
    (spelled : ∀ opening ∈ language, Spelled same expected opening)
    (blocks : List (TableBlock dialect)) :
    all (block (literal same expected)) (document blocks) = blocks.map fun block =>
    (block.name, block.body) := by
  have noBrace {front : List Char} (isFront : front ∈ blanks) : '\x7b' ∉ front :=
    not_mem_of_run isFront (by decide)
  rw [List.map_eq_flatMap]
  refine all_document (fun front isFront => all_block_eq_nil (noBrace isFront))
    (fun block front isFront rest => ?_) _
  have ends : ∀ inside ∈ exactly block.body, '\x7d' ∉ inside := by
    rintro _ rfl
    exact noEnd block
  rcases all_block_of_written letters spelled block.isName ends (isWritten block) with
    ⟨_, rfl, found⟩
  exact found front rest (noBrace isFront)

/-- What is found in a document by a scan that stops at braces is what is found in the bodies of its
blocks. -/
theorem bodies_document {Found : Type} {scan : Scan Found}
    (isWritten : ∀ block : TableBlock dialect,
      block.text ∈ writtenBlock language block.name (exactly block.body))
    (noEnd : ∀ block : TableBlock dialect, '\x7d' ∉ block.body)
    (words : ∀ opening ∈ language, IsWord opening)
    (stops : ∀ stop ∈ blockMarks, StopsAt stop scan) (failed : scan [] = none)
    (needs : ∀ text, ':' ∉ text → '.' ∉ text → all scan text = [])
    (blocks : List (TableBlock dialect)) :
    all scan (document blocks) = blocks.flatMap fun block => all scan block.body := by
  have free {front : List Char} (isFront : front ∈ blanks) {char : Char}
      (noSpace : isSpace char = false) :
      char ∉ front := not_mem_of_run isFront noSpace
  refine all_document
    (fun front isFront => needs front (free isFront (by decide)) (free isFront (by decide)))
    (fun block front isFront rest => ?_) blocks
  rcases exists_of_mem_writtenBlock (isWritten block) with
    ⟨opening, isOpening, gap, isGap, between, isBetween, _, rfl, split⟩
  have isHead : IsHead opening gap block.name between :=
    ⟨words opening isOpening, isGap, block.isName, isBetween⟩
  have noMark {char : Char} (noWord : isWord char = false) (noSpace : isSpace char = false) :
      char ∉ front ++ (opening ++ (gap ++ (block.name.toList ++ between))) := by
    rw [List.mem_append, not_or]
    exact ⟨free isFront noSpace, isHead.not_mem noWord noSpace⟩
  have parts : front ++ (block.text ++ rest) =
      (front ++ (opening ++ (gap ++ (block.name.toList ++ between)))) ++
      '\x7b' :: (block.body ++ '\x7d' :: rest) := by
    rw [split]
    simp
  rw [parts, (stops _ (by decide)).all_append_cons failed (noMark (by decide) (by decide)),
    needs _ (noMark (by decide) (by decide)) (noMark (by decide) (by decide)), List.nil_append,
    (stops _ (by decide)).all_append_cons failed (noEnd block)]

end Braces

/-! ### What is read from a block -/

/-- The table of a block, with the keys that stand in it but without those of references between
tables. -/
def table : {dialect : Dialect} → TableBlock dialect → Table
  | .sql, block => Sql.tableOf block.name block.body
  | .dbml, block => { name := block.name, columns := Dbml.columnsOf block.body, foreignKeys := [] }
  | .shorthand, block => Shorthand.tableOf block.name block.body

@[simp]
theorem name_table {dialect : Dialect} (block : TableBlock dialect) :
    block.table.name = block.name := by
  cases dialect <;> rfl

theorem map_name_table {dialect : Dialect} (blocks : List (TableBlock dialect)) :
    (blocks.map table).map Table.name = blocks.map name := by
  simp [Function.comp_def]

/-- The keys of the references between tables, with their owners. -/
def keys : {dialect : Dialect} → List (TableBlock dialect) → List (String × ForeignKey)
  | .sql, _ => []
  | .dbml, blocks => (blocks.flatMap fun block => Dbml.references block.body).map fun reference =>
      (reference.owner, reference.key)
  | .shorthand, blocks => ((blocks.flatMap fun block => all Shorthand.reference block.body).filter
      (·.isKnown (blocks.map name))).map fun reference => (reference.source.1, reference.key)

theorem keys_perm {dialect : Dialect} {blocks others : List (TableBlock dialect)}
    (perm : blocks.Perm others) :
    (keys blocks).Perm (keys others) := by
  cases dialect with
  | sql => exact .nil
  | dbml => exact (perm.flatMap_right _).map _
  | shorthand =>
    have sameNames : Shorthand.Reference.isKnown (blocks.map name) = Shorthand.Reference.isKnown
        (others.map name) := by
      funext reference
      simp only [Shorthand.Reference.isKnown, (perm.map name).mem_iff]
    simp only [keys, sameNames]
    exact ((perm.flatMap_right _).filter _).map _

end TableBlock

open TableBlock

/-! ### SQL -/

theorem Sql.tables_document (blocks : List (TableBlock .sql)) :
    tables (document blocks) = blocks.map table := by
  have found : all tableStatement (document blocks) = blocks.map fun block =>
      (block.name, block.body) := by
    have skipped (front : List Char) (isFront : front ∈ blanks) (rest : List Char) :
        all tableStatement (front ++ rest) = all tableStatement rest :=
      all_append_of_plain tableStatement_starts (plain_blanks isFront) rest
    rw [List.map_eq_flatMap]
    refine all_document (fun front isFront => ?_) (fun block front isFront rest => ?_) blocks
    · have atEnd := skipped front isFront []
      rwa [List.append_nil, all] at atEnd
    · have noEnd : ∀ body ∈ exactly block.body, ';' ∉ body := by
        rintro _ rfl
        exact block.isBody
      rcases tableStatement_written block.isName noEnd block.isWritten with ⟨_, rfl, read⟩
      have nonempty : block.text ≠ [] := by
        intro isEmpty
        have atEnd := read []
        rw [isEmpty] at atEnd
        cases atEnd
      have positive := List.length_pos_of_ne_nil nonempty
      rw [skipped front isFront, all_of_some (read rest)]
      · rfl
      · rw [List.length_append]
        omega
  rw [tables, found, List.map_map]
  rfl

/-! ### Block notations -/

theorem Dbml.tables_document (blocks : List (TableBlock .dbml)) :
    tables (document blocks) = blocks.map table := by
  have found : all (block (Scan.keyword "Table")) (document blocks) = _ :=
    blocks_document isWritten isBody
    (fun _ => isWord_of_spelled (by decide)) (fun _ => isSpelling_of_keyword) blocks
  rw [tables, found, List.map_map]
  rfl

theorem Shorthand.tables_document (blocks : List (TableBlock .shorthand)) :
    tables (document blocks) = blocks.map table := by
  have words (written : List Char)
      (spelled : Spelled (fun expected char => expected = char) "Table".toList written) :
      IsWord written := by
    rw [spelled_exactly.1 spelled]
    decide
  have found : all (block (Scan.exactly "Table")) (document blocks) = _ :=
    blocks_document isWritten isBody words
    (fun _ isOpening => spelled_exactly.2 isOpening) blocks
  rw [tables, found, List.map_map]
  rfl

theorem Dbml.references_document (blocks : List (TableBlock .dbml)) :
    references (document blocks) = blocks.flatMap fun block => references block.body :=
  bodies_document isWritten isBody (fun _ isOpening => isWord_of_keyword (by decide) isOpening)
    (fun _ => stopsAt_reference) rfl (fun _ noColon _ => references_eq_nil noColon) blocks

theorem Shorthand.references_document (blocks : List (TableBlock .shorthand)) :
    (references (document blocks)).map Prod.snd = blocks.flatMap fun block =>
      all reference block.body := by
  rw [references, map_snd_all_withText]
  refine bodies_document isWritten isBody ?_ (fun _ => stopsAt_reference) rfl
    (fun _ _ noDot => all_reference_eq_nil noDot) blocks
  rintro _ rfl
  decide

/-! ### Documents -/

namespace TableBlock

variable {dialect : Dialect}

/-- What is read from a document: the table of each block, with the keys of the references to other
tables. -/
theorem result_parse_document {blocks : List (TableBlock dialect)}
    (distinct : (blocks.map name).Nodup) (noEnum : HasNoEnum blocks) :
    (dialect.parse (document blocks)).result =
      blocks.map fun block => Table.completed [] (blocks.map table) (keys blocks) block.table := by
  have noEnums : dialect.enums (document blocks) = [] := Dialect.enums_eq_nil noEnum
  have distinctTables : ((blocks.map table).map Table.name).Nodup := by rwa [map_name_table]
  have settled : (Table.settle [] ((blocks.map table).map (Table.withKeys (keys blocks)))).result =
      blocks.map fun block => Table.completed [] (blocks.map table) (keys blocks) block.table := by
    rw [Table.result_settle_withKeys, List.map_map]
    rfl
  rw [← settled]
  cases dialect with
  | sql =>
    have noKeys : Table.withKeys (keys blocks) = id := by
      funext table
      simp [keys, Table.withKeys]
    change Sql.enums (document blocks) = [] at noEnums
    simp only [Dialect.parse, Sql.parse, Logged.result_bind, noEnums, Sql.tables_document, noKeys,
      List.map_id]
  | dbml =>
    have attached := Table.foldl_attach distinctTables (keys blocks)
    rw [keys, List.foldl_map, ← Dbml.references_document] at attached
    change Dbml.enums (document blocks) = [] at noEnums
    simp only [Dialect.parse, Dbml.parse, Logged.result_bind, noEnums, Dbml.tables_document,
      Logged.result_foldlM]
    rw [attached, keys, Dbml.references_document]
  | shorthand =>
    have attached := Shorthand.foldl_attach (Shorthand.references (document blocks))
      (blocks.map table)
    rw [Shorthand.references_document, map_name_table,
      Table.foldl_attach distinctTables] at attached
    change Shorthand.enums (document blocks) = [] at noEnums
    simp only [Dialect.parse, Shorthand.parse, Logged.result_bind, noEnums,
      Shorthand.tables_document, Logged.result_foldlM, attached, keys]

/-- Complete blocks of tables with different names may be written in any order.  The tables that are
read stand in the same order as the blocks, and each of them has the same columns and the same keys,
whichever way its references lead. -/
theorem parse_document_perm {blocks others : List (TableBlock dialect)} (perm : blocks.Perm others)
    (distinct : (blocks.map name).Nodup) (noEnum : HasNoEnum blocks) :
    ∃ read reread : TableBlock dialect → Table,
      (dialect.parse (document blocks)).result = blocks.map read ∧
      (dialect.parse (document others)).result = others.map reread ∧
      ∀ block ∈ blocks, (read block).name = block.name ∧
      (read block).IsRearranged (reread block) := by
  have distinctOthers : (others.map name).Nodup := (perm.map name).nodup_iff.1 distinct
  have distinctTables : ((blocks.map table).map Table.name).Nodup := by rwa [map_name_table]
  refine ⟨_, _, result_parse_document distinct noEnum,
    result_parse_document distinctOthers (noEnum.perm perm),
    fun block _ => ⟨name_table block, ?_⟩⟩
  exact Table.isRearranged_completed (perm.map table) distinctTables (keys_perm perm) [] block.table

/-- A table whose key leads to a table behind it. -/
def postsBlock : TableBlock .shorthand :=
  ofBody .shorthand "posts" "\n  id int [pk]\n  author int [ref: > users.id]\n".toList (by decide)
    (by decide)

/-- A table with a reference to a table before it, in a line that looks like the beginning of a
block. -/
def usersBlock : TableBlock .shorthand :=
  ofBody .shorthand "users" "\n  id int\n  best int\n  Table x \x7b users.best > posts.id\n".toList
    (by decide) (by decide)

theorem parse_document_swapped : ∃ read reread : TableBlock .shorthand → Table,
    (Dialect.shorthand.parse (document [postsBlock, usersBlock])).result =
    [postsBlock, usersBlock].map read ∧
    (Dialect.shorthand.parse (document [usersBlock, postsBlock])).result =
    [usersBlock, postsBlock].map reread ∧
    ∀ block ∈ [postsBlock, usersBlock], (read block).name = block.name ∧
      (read block).IsRearranged (reread block) := by
  have noEnum : ¬"enum".toList <:+: (document [postsBlock, usersBlock]).map small := by
    decide +kernel
  exact parse_document_perm (.swap _ _ _) (by decide) noEnum

end TableBlock

end Schemagram
