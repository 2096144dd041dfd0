import Schemagram.Proofs.Scan.Parts
import Schemagram.Proofs.Sql.Body
import Schemagram.Schema

/-!
# Detection and the statements of a text

A text is taken for SQL by the words `create table` in it, in any case and with one blank between
them.  The statements of the dialect have any white space there.  So a text in which a statement is
found is read in SQL when one of its statements is written with a single blank, and only if the two
words stand so somewhere.
-/

namespace Schemagram

open Text Scan

namespace Sql

/-- The table statements of a text, each with its text. -/
def statements (text : List Char) : List (List Char × String × List Char) :=
  all (withText tableStatement) text

/-- The first two words of a statement have exactly one blank between them. -/
def IsSingleSpaced (written : List Char) : Prop :=
  ∃ create table more, IsSpelling "CREATE" create ∧ IsSpelling "TABLE" table ∧
    written = create ++ ' ' :: (table ++ more)

/-- The tables that are read are those of the statements. -/
theorem tables_eq_map_statements (text : List Char) :
    tables text = (statements text).map fun (_, name, body) => tableOf name body := by
  rw [tables, ← map_snd_all_withText, List.map_map]
  rfl

theorem afterSemicolon?_suffix {text rest : List Char} (read : afterSemicolon? text = some rest) :
    rest <:+ text := by
  induction text with
  | nil => cases read
  | cons char more ih =>
    rw [afterSemicolon?] at read
    split at read
    · cases read
      exact List.suffix_cons char rest
    · split at read
      · cases read
      · exact (ih read).trans (List.suffix_cons char more)

theorem body_suffix {text inside rest : List Char} (read : body text = some (inside, rest)) :
    rest <:+ text := by
  induction text generalizing inside with
  | nil => cases read
  | cons char more ih =>
    rw [body] at read
    split at read
    · rename_i after isEnd
      cases read
      split at isEnd
      · exact (afterSemicolon?_suffix isEnd).trans (List.suffix_cons char more)
      · cases isEnd
    · rcases Option.map_eq_some_iff.1 read with ⟨⟨_, _⟩, readMore, same⟩
      cases same
      exact (ih readMore).trans (List.suffix_cons char more)

theorem takes_tableStatement : Takes (fun _ => True) tableStatement := by
  have inside : Takes (fun _ => True) body := by
    intro text rest found read
    rcases body_suffix read with ⟨part, split⟩
    exact ⟨part, split.symm, fun _ _ => trivial⟩
  exact (takes_letters (by decide)).chars.bind fun _ => takes_blank.chars.bind fun _ =>
    (takes_letters (by decide)).chars.bind fun _ => takes_blank.chars.bind fun _ =>
      takes_quotedName.chars.bind fun _ =>
      takes_blanks.chars.bind fun _ => (takes_mark trivial).bind fun _ => inside.bind fun _ =>
        takes_pure _

/-- The words of a single-spaced statement are the words that SQL is detected by. -/
theorem IsSingleSpaced.exists_words {written : List Char} (isSingle : IsSingleSpaced written) :
    ∃ words ∈ Writing.keyword "create table", words <+: written := by
  rcases isSingle with ⟨create, table, more, isCreate, isTable, rfl⟩
  have first : create.map small = "create".toList :=
    Writing.keyword_of_isSpelling (by decide) isCreate
  have second : table.map small = "table".toList :=
    Writing.keyword_of_isSpelling (by decide) isTable
  refine ⟨create ++ ' ' :: table, ?_, more, by simp⟩
  rw [Writing.mem_keyword, List.map_append, List.map_cons, first, second]
  decide

end Sql

namespace Dialect

/-- A text is SQL exactly if the words `create table` are written in it, in some case. -/
theorem detect_eq_sql_iff (text : List Char) :
    detect text = .sql ↔ ∃ words ∈ Writing.keyword "create table", words <:+: text := by
  have asContains : detect text = .sql ↔ contains "create table".toList (lower text) = true := by
    unfold detect
    cases contains "create table".toList (lower text) with
    | true => simp
    | false =>
      rw [if_neg Bool.false_ne_true]
      split <;> simp
  rw [asContains, contains_iff]
  constructor
  · intro isPart
    rcases exists_infix_of_lower (by decide) isPart with ⟨words, inText, same⟩
    exact ⟨words, Writing.mem_keyword.2 (same.trans (by decide)), inText⟩
  · rintro ⟨words, areWords, inText⟩
    have inLower := infix_lower inText
    rwa [Writing.lower_of_keyword (by decide) areWords] at inLower

end Dialect

namespace Schema

/-- SQL is detected by the words `create table` with one blank between them.  So a text in which a
statement is written with a single blank is read as it is in SQL. -/
theorem parse_of_statement (text : String) :
    (Dialect.detect text.toList = .sql ↔ ∃ words ∈ Writing.keyword "create table",
      words <:+: text.toList) ∧
    ((∃ statement ∈ Sql.statements text.toList, Sql.IsSingleSpaced statement.1) →
      Dialect.detect text.toList = .sql ∧
      (parse text none).result = (parse text (some .sql)).result) := by
  refine ⟨Dialect.detect_eq_sql_iff text.toList, ?_⟩
  rintro ⟨⟨written, found⟩, isFound, isSingle⟩
  have isSql : Dialect.detect text.toList = .sql := by
    rcases isSingle.exists_words with ⟨words, areWords, isPrefix⟩
    have inText := (infix_of_mem_all_withText Sql.takes_tableStatement isFound).1
    exact (Dialect.detect_eq_sql_iff _).2 ⟨words, areWords, isPrefix.isInfix.trans inText⟩
  refine ⟨isSql, ?_⟩
  simp only [parse, Dialect.detected, Logged.result_bind, isSql]
  rfl

/-- A statement in mixed case, behind a comment. -/
theorem parse_of_statement_mixedCase :
    Dialect.detect "-- enum\nCreate TABLE a (id int);".toList = .sql ∧
      (parse "-- enum\nCreate TABLE a (id int);" none).result =
        (parse "-- enum\nCreate TABLE a (id int);" (some .sql)).result := by
  refine (parse_of_statement "-- enum\nCreate TABLE a (id int);").2
    ⟨("Create TABLE a (id int);".toList, "a", "id int".toList), by decide +kernel,
      "Create".toList, "TABLE".toList, " a (id int);".toList, ?_, ?_, by decide⟩
  · exact Writing.isSpelling_of_keyword (Writing.mem_keyword.2 (by decide))
  · exact Writing.isSpelling_of_keyword (Writing.mem_keyword.2 (by decide))

/-- A statement with two blanks between its words is read in SQL, but SQL is not detected. -/
theorem parse_of_wideStatement :
    ¬ ∀ text : String, Sql.tables text.toList ≠ [] →
      Dialect.detect text.toList = .sql ∧
      (parse text none).result = (parse text (some .sql)).result := by
  intro agrees
  have isSql := (agrees "CREATE  TABLE t (id INT);" (by decide +kernel)).1
  have isShorthand : Dialect.detect "CREATE  TABLE t (id INT);".toList = .shorthand := by
    decide +kernel
  rw [isSql] at isShorthand
  cases isShorthand

end Schema

end Schemagram
