import Schemagram.Proofs.Dialect.Detection
import Schemagram.Proofs.LineEnds.Scans

/-!
# Line ends in the dialects

Returns in front of the line feeds of a text change nothing that a dialect reads from it.  Blocks
are cut at line feeds and their lines are trimmed; statements are cut at commas, and a fragment is
searched for forms that white space of any kind holds together.

Only the members of an enum between commas are kept as they are written.  They stay the same if none
of them goes on in another line; and the text of a reference that is dropped is reported as it is
written.
-/

namespace Schemagram

open Text Scan

theorem linesOf_withReturns (inside : List Char) :
    linesOf (withReturns inside) = linesOf inside := by
  rw [linesOf, linesOf, map_lines_withReturns trim fun _ _ same => same]

/-- What is read of the blocks of a text, when it does not depend on returns in them. -/
theorem map_blocks_withReturns {Result : Type} {opening : Scan Unit}
    (widens : Widens id opening opening) (refuses : RefusesLineEnds opening)
    (read : String × List Char → Result) {text : List Char}
    (same : ∀ found ∈ all (block opening) text, read (found.1, withReturns found.2) = read found) :
    (all (block opening) (withReturns text)).map read = (all (block opening) text).map read := by
  rw [(widens_block widens).all (refuses.bind _).passes, List.map_map]
  exact List.map_congr_left same

namespace Dbml

theorem membersOf_withReturns (inside : List Char) :
    membersOf (withReturns inside) = membersOf inside := by
  have trimmed (line other : List Char) (same : trim line = trim other) :
      memberOf line = memberOf other := by
    rw [memberOf, memberOf, same]
  rw [membersOf, membersOf, map_lines_withReturns memberOf trimmed]

theorem enums_withReturns (text : List Char) : enums (withReturns text) = enums text := by
  rw [enums, enums, map_blocks_withReturns (widens_keyword (by decide))
    (refusesLineEnds_keyword (by decide) (by decide))]
  intro found _
  simp only [membersOf_withReturns]

theorem tables_withReturns (text : List Char) : tables (withReturns text) = tables text := by
  rw [tables, tables, map_blocks_withReturns (widens_keyword (by decide))
    (refusesLineEnds_keyword (by decide) (by decide))]
  intro found _
  simp only [columnsOf, linesOf_withReturns]

theorem references_withReturns (text : List Char) :
    references (withReturns text) = references text := by
  have widens : Widens id reference reference :=
    (widens_keyword (by decide)).bind fun _ => widens_spaces.bind fun _ =>
      widens_dotted.bind fun _ =>
      widens_spaces.bind fun _ => (widens_one (by decide) (by decide)).bind fun _ =>
        widens_spaces.bind fun _ =>
        widens_dotted.bind fun _ => widens_pure id _
  have refuses : RefusesLineEnds reference :=
    (refusesLineEnds_keyword (by decide) (by decide)).bind _
  rw [references, references, widens.all refuses.passes, List.map_id]

theorem parse_withReturns (text : List Char) : parse (withReturns text) = parse text := by
  rw [parse, parse, enums_withReturns, tables_withReturns, references_withReturns]

end Dbml

namespace Shorthand

/-- No member of an enum goes on in another line. -/
def HasPlainMembers (text : List Char) : Prop :=
  ∀ found ∈ all (block (keyword "enum")) text, HasPlainPieces found.2

instance (text : List Char) : Decidable (HasPlainMembers text) :=
  inferInstanceAs (Decidable (∀ found ∈ all (block (keyword "enum")) text, HasPlainPieces found.2))

theorem enums_withReturns {text : List Char} (plain : HasPlainMembers text) :
    enums (withReturns text) = enums text := by
  rw [enums, enums, map_blocks_withReturns (widens_keyword (by decide))
    (refusesLineEnds_keyword (by decide) (by decide))]
  intro found mem
  have pieces := map_pieces_withReturns (fun piece => (trim piece).filter fun char => char ≠ '\'' &&
    char ≠ '"')
    (fun piece other same => by rw [same]) (plain found mem)
  simp only [membersOf, pieces]

theorem tables_withReturns (text : List Char) : tables (withReturns text) = tables text := by
  have widens : Widens id (exactly "Table") (exactly "Table") := widens_literal (by decide)
  have refuses : RefusesLineEnds (exactly "Table") := fun text => ⟨rfl, rfl⟩
  rw [tables, tables, map_blocks_withReturns widens refuses]
  intro found _
  simp only [tableOf, linesOf_withReturns]

/-- A reference behind the word that may introduce it. -/
def referenceColumns : Scan Reference := do
  let left ← dotted
  spaces
  let arrow ← arrow
  spaces
  let right ← dotted
  return ⟨left, arrow, right⟩

theorem map_snd_references_withReturns (text : List Char) :
    (references (withReturns text)).map Prod.snd = (references text).map Prod.snd := by
  have widensIntroduction : Widens id introduction introduction :=
    ((widens_keyword (by decide)).orElse (widens_keyword (by decide))).optionally
  have widensArrow : Widens id arrow arrow := widens_one (by decide) (by decide)
  have widensMore : Widens id referenceColumns referenceColumns :=
    widens_dotted.bind fun _ => widens_spaces.bind fun _ => widensArrow.bind fun _ =>
      widens_spaces.bind fun _ =>
      widens_dotted.bind fun _ => widens_pure id _
  have widens : Widens id reference reference :=
    widensIntroduction.bind fun _ => widens_spaces.bind fun _ => widensMore
  have refuses : RefusesLineEnds (keyword "ref:" <|> keyword "fk:") :=
    (refusesLineEnds_keyword (by decide) (by decide)).orElse
      (refusesLineEnds_keyword (by decide) (by decide))
  have passes : PassesLineEnds reference :=
    refuses.passes_optionally (passesLineEnds_spaces.bind fun _ => widensMore)
  rw [references, references, map_snd_all_withText, map_snd_all_withText, widens.all passes,
    List.map_id]

/-- What a reference adds to the tables does not depend on how it is written. -/
theorem result_foldlM_attach (written : List (List Char × Reference)) (tables : List Table) :
    (written.foldlM attach tables).result =
      (written.map Prod.snd).foldl (fun tables reference => (attach tables ([], reference)).result)
        tables := by
  rw [Logged.result_foldlM, List.foldl_map]
  congr 1
  funext tables reference
  simp only [attach]
  split <;> rfl

theorem result_parse_withReturns {text : List Char} (plain : HasPlainMembers text) :
    (parse (withReturns text)).result = (parse text).result := by
  simp only [parse, Logged.result_bind, result_foldlM_attach, enums_withReturns plain,
    tables_withReturns, map_snd_references_withReturns]

end Shorthand

namespace Sql

/-- No member of an enum goes on in another line. -/
def HasPlainMembers (text : List Char) : Prop :=
  ∀ statement ∈ all enumStatement text, HasPlainPieces statement.2

instance (text : List Char) : Decidable (HasPlainMembers text) :=
  inferInstanceAs (Decidable (∀ statement ∈ all enumStatement text, HasPlainPieces statement.2))

theorem widens_quotedName : Widens id quotedName quotedName := by
  have quote : Widens id (optionally (do let _ ← one fun char => char = backTick || char = '"'))
      (optionally (do let _ ← one fun char => char = backTick || char = '"')) :=
    ((widens_one (by decide) (by decide)).bind fun _ => widens_pure id ()).optionally
  exact quote.bind fun _ => widens_word.bind fun name => quote.bind fun _ => widens_pure id name

theorem widens_quotedMember : Widens withReturns quotedMember quotedMember := by
  refine (widens_mark (by decide) (by decide)).bind fun _ =>
    (widens_run (by decide)).bind fun inside =>
    (widens_mark (by decide) (by decide)).bind fun _ => ?_
  have found := widens_pure withReturns ('\'' :: inside ++ ['\''])
  have quote : withReturns ['\''] = ['\''] := rfl
  rwa [withReturns_append, withReturns_cons (by decide), quote] at found

theorem widens_nextMember : Widens withReturns nextMember nextMember := by
  refine (widens_run rfl).bind fun before => (widens_mark (by decide) (by decide)).bind fun _ =>
    (widens_run rfl).bind fun after => widens_quotedMember.bind fun member => ?_
  have found := widens_pure withReturns (before ++ ',' :: after ++ member)
  rwa [withReturns_append, withReturns_append, withReturns_cons (by decide)] at found

theorem withReturns_flatten (pieces : List (List Char)) :
    withReturns pieces.flatten = (pieces.map withReturns).flatten := by
  induction pieces with
  | nil => rfl
  | cons first more ih =>
    rw [List.flatten_cons, withReturns_append, ih, List.map_cons, List.flatten_cons]

theorem widens_memberList : Widens withReturns memberList memberList := by
  refine widens_quotedMember.bind fun first => widens_nextMember.many.bind fun more => ?_
  have found := widens_pure withReturns (first ++ more.flatten)
  rwa [withReturns_append, withReturns_flatten] at found

theorem widens_enumStatement : Widens (Prod.map id withReturns) enumStatement enumStatement :=
  (widens_keyword (by decide)).bind fun _ => widens_someSpaces.bind fun _ =>
    (widens_keyword (by decide)).bind fun _ => widens_someSpaces.bind fun _ =>
      widens_word.bind fun name =>
      widens_someSpaces.bind fun _ => (widens_keyword (by decide)).bind fun _ =>
        widens_someSpaces.bind fun _ =>
        (widens_keyword (by decide)).bind fun _ => widens_spaces.bind fun _ =>
          (widens_mark (by decide) (by decide)).bind fun _ => widens_spaces.bind fun _ =>
            widens_memberList.bind fun members => widens_spaces.bind fun _ =>
              (widens_mark (by decide) (by decide)).bind fun _ =>
                widens_pure (Prod.map id withReturns) (name, members)

theorem enums_withReturns {text : List Char} (plain : HasPlainMembers text) :
    enums (withReturns text) = enums text := by
  have refuses : RefusesLineEnds enumStatement :=
    (refusesLineEnds_keyword (by decide) (by decide)).bind _
  rw [enums, enums, widens_enumStatement.all refuses.passes, List.map_map]
  refine congrArg Keyed.ofPairs (List.map_congr_left fun statement mem => ?_)
  have trimmed (piece other : List Char) (same : trim piece = trim other) :
      unquoteMember piece = unquoteMember other := by
    rw [unquoteMember, unquoteMember, same]
  have pieces := map_pieces_withReturns unquoteMember trimmed (plain statement mem)
  simp only [Function.comp_apply, Prod.map, id, membersOf, pieces]

theorem afterSemicolon?_withReturns (text : List Char) :
    afterSemicolon? (withReturns text) = (afterSemicolon? text).map withReturns := by
  induction text with
  | nil => rfl
  | cons char rest ih =>
    by_cases isLine : char = '\n'
    · subst isLine
      simpa [withReturns_line, afterSemicolon?] using ih
    · rw [withReturns_cons isLine, afterSemicolon?, afterSemicolon?, ih]
      split
      · rfl
      · split <;> rfl

theorem widens_body : Widens withReturns body body where
  same text := by
    induction text with
    | nil => rfl
    | cons char rest ih =>
      by_cases isLine : char = '\n'
      · subst isLine
        rw [withReturns_line]
        simp only [body, ih]
        cases body rest <;> rfl
      · rw [withReturns_cons isLine, body, body, ih, afterSemicolon?_withReturns]
        by_cases isEnd : char = ')'
        · rw [if_pos isEnd, if_pos isEnd]
          cases afterSemicolon? rest with
          | some after => rfl
          | none => cases body rest <;> simp [withReturns_cons isLine]
        · rw [if_neg isEnd, if_neg isEnd]
          cases body rest <;> simp [withReturns_cons isLine]
  suffix := body_suffix

theorem widens_tableStatement : Widens (Prod.map id withReturns) tableStatement tableStatement :=
  (widens_keyword (by decide)).bind fun _ => widens_someSpaces.bind fun _ =>
    (widens_keyword (by decide)).bind fun _ => widens_someSpaces.bind fun _ =>
      widens_quotedName.bind fun name =>
      widens_spaces.bind fun _ => (widens_mark (by decide) (by decide)).bind fun _ =>
        widens_body.bind fun inside => widens_pure (Prod.map id withReturns) (name, inside)

theorem widens_inParentheses : Widens id inParentheses inParentheses :=
  widens_spaces.bind fun _ => (widens_mark (by decide) (by decide)).bind fun _ =>
    widens_spaces.bind fun _ =>
    widens_quotedName.bind fun _ => widens_spaces.bind fun _ =>
      (widens_mark (by decide) (by decide)).bind fun _ =>
      widens_pure id _

theorem widens_foreignKey : Widens id foreignKey foreignKey := by
  have opening : Widens id foreignKeyword foreignKeyword :=
    ((widens_keyword (by decide)).bind fun _ => widens_someSpaces.bind fun _ =>
      widens_keyword (by decide)).orElse (widens_keyword (by decide))
  exact opening.bind fun _ => widens_inParentheses.bind fun _ => widens_spaces.bind fun _ =>
    (widens_keyword (by decide)).bind fun _ => widens_someSpaces.bind fun _ =>
      widens_quotedName.bind fun _ =>
      widens_inParentheses.bind fun _ => widens_pure id _

theorem widens_marker {long short : String} (longOnLine : IsOnLine isSameLetter long.toList)
    (shortOnLine : IsOnLine isSameLetter short.toList) :
    Widens id (marker long short) (marker long short) := by
  have words := ((widens_keyword longOnLine).orElse (widens_keyword shortOnLine)).withText_onLine
    ((takes_keyword_onLine longOnLine).orElse (takes_keyword_onLine shortOnLine))
  have written : Widens id (Prod.fst <$> withText (keyword long <|> keyword short))
      (Prod.fst <$> withText (keyword long <|> keyword short)) := by
    rw [map_eq_pure_bind]
    exact words.bind fun found => widens_pure id found.1
  exact widens_spaces.bind fun _ => written.orElse (widens_pure id [])

theorem widens_column : Widens id column column :=
  widens_quotedName.bind fun _ => widens_someSpaces.bind fun _ =>
    (widens_type (widens_precision widens_secondDigits)).bind fun _ =>
      (widens_marker (by decide) (by decide)).bind fun _ =>
        (widens_marker (by decide) (by decide)).bind fun _ =>
        widens_pure id _

theorem fragmentOf_withReturns (fragment : List Char) :
    fragmentOf (withReturns fragment) = fragmentOf fragment := by
  have refusesKey : RefusesLineEnds foreignKey :=
    (((refusesLineEnds_keyword (by decide) (by decide)).bind _).orElse
      (refusesLineEnds_keyword (by decide) (by decide))).bind _
  have refusesColumn : RefusesLineEnds column := by
    have quote : RefusesLineEnds (do let _ ← one fun char => char = backTick || char = '"') :=
      fun _ => ⟨rfl, rfl⟩
    have name : RefusesLineEnds quotedName := quote.optionally (refusesLineEnds_word.bind _)
    exact name.bind _
  rw [fragmentOf, fragmentOf, widens_foreignKey.search refusesKey.passes,
    widens_column.search refusesColumn.passes, Option.map_id, id, Option.map_id, id]

theorem tableOf_withReturns (name : String) (body : List Char) :
    tableOf name (withReturns body) = tableOf name body := by
  have same : fragments (withReturns body) = fragments body := by
    rw [fragments, fragments, splitOn_withReturns (by decide) (by decide), List.map_map]
    refine List.map_congr_left fun piece _ => ?_
    rw [Function.comp_apply, trim_withReturns, fragmentOf_withReturns]
  rw [tableOf, tableOf, same]

theorem tables_withReturns (text : List Char) : tables (withReturns text) = tables text := by
  have refuses : RefusesLineEnds tableStatement :=
    (refusesLineEnds_keyword (by decide) (by decide)).bind _
  rw [tables, tables, widens_tableStatement.all refuses.passes, List.map_map]
  exact List.map_congr_left fun statement _ => tableOf_withReturns statement.1 statement.2

theorem parse_withReturns {text : List Char} (plain : HasPlainMembers text) :
    parse (withReturns text) = parse text := by
  rw [parse, parse, tables_withReturns, enums_withReturns plain]

end Sql

end Schemagram
