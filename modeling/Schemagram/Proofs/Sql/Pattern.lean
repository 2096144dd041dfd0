import Schemagram.Proofs.Scan.Pattern
import Schemagram.Proofs.Sql.Reading

/-!
# The patterns of statements and columns

The statement of a table and the column of a fragment as patterns whose parts are tried way by way:
the body of a statement is extended as long as the statement does not end behind it, and a name, a
run of white space or a marker is shortened when nothing follows it.  The scans find what the first
way through a pattern finds.
-/

namespace Schemagram.Sql

open Text Pattern

variable {Found : Type}

/-- A name with a quote on both sides, on one side or on none. -/
def namePattern : Pattern String := do
  maybe (ofScan quote) ()
  let name ← word
  maybe (ofScan quote) ()
  return name

/-- What stands behind the opening parenthesis of a table: a body as short as may be, its closing
parenthesis, and the nearest semicolon, unless a closing parenthesis comes before it. -/
def bodyPattern : Pattern (List Char) := do
  let inside ← shortRun fun _ => true
  ofScan (Scan.mark ')')
  let _ ← shortRun (· ≠ ')')
  ofScan (Scan.mark ';')
  return inside

def tablePattern : Pattern (String × List Char) := do
  ofScan (Scan.keyword "CREATE")
  someSpaces
  ofScan (Scan.keyword "TABLE")
  someSpaces
  let name ← namePattern
  spaces
  ofScan (Scan.mark '(')
  let inside ← bodyPattern
  return (name, inside)

def secondSizePattern : Pattern (List Char) := do
  ofScan (Scan.mark ',')
  let digits ← someRun isDecimal
  return ',' :: digits

/-- The sizes of a type between parentheses. -/
def sizesPattern : Pattern (List Char) := do
  ofScan (Scan.mark '(')
  let digits ← someRun isDecimal
  let more ← maybe secondSizePattern []
  ofScan (Scan.mark ')')
  return '(' :: digits ++ more ++ [')']

def typePattern : Pattern String := do
  let name ← word
  let sizes ← maybe sizesPattern []
  return name ++ String.ofList sizes

/-- A keyword as it is written. -/
def spelled (name : String) : Scan (List Char) := Prod.fst <$> Scan.withText (Scan.keyword name)

/-- The group of a marker: one of two keywords, or nothing. -/
def markerPattern (long short : String) : Pattern (List Char) := do
  spaces
  maybe (maybe (ofScan (spelled long) <|> ofScan (spelled short)) []) []

/-- The groups of a column: its name, its type, and what is matched for the two markers. -/
structure ColumnGroups where
  name : String
  type : String
  notNull : List Char
  primaryKey : List Char
deriving DecidableEq

def columnPattern : Pattern ColumnGroups := do
  let name ← namePattern
  someSpaces
  let type ← typePattern
  let notNull ← markerPattern "NOT NULL" "NN"
  let primaryKey ← markerPattern "PRIMARY KEY" "PK"
  return ⟨name, type, notNull, primaryKey⟩

/-! ### Names -/

theorem exists_quote {text : List Char} (read : quote text ≠ none) :
    ∃ char rest, text = char :: rest ∧ isQuote char = true := by
  cases text with
  | nil => exact absurd rfl read
  | cons char rest =>
    refine ⟨char, rest, rfl, ?_⟩
    by_contra noQuote
    apply read
    simp [quote, Scan.one, noQuote, bind, StateT.bind]

theorem refuses_quote {isInside : Char → Bool}
    (disjoint : ∀ char, isInside char = true → isQuote char = false) :
    Refuses isInside (ofScan quote) := by
  apply refuses_ofScan
  intro char inside rest
  simp [quote, Scan.one, disjoint char inside, bind, StateT.bind]

theorem refuses_word {isInside : Char → Bool}
    (disjoint : ∀ char, isInside char = true → isWord char = false) :
    Refuses isInside Pattern.word := by
  simp only [Pattern.word, map_eq_pure_bind]
  apply Refuses.bind
  exact refuses_someRun disjoint

theorem refuses_namePattern {isInside : Char → Bool}
    (noQuote : ∀ char, isInside char = true → isQuote char = false)
    (noWord : ∀ char, isInside char = true → isWord char = false) :
    Refuses isInside namePattern := by
  apply (refuses_quote noQuote).maybe_bind
  apply Refuses.bind
  exact refuses_word noWord

/-- A pattern that cannot go on with a quote is not tried behind a name whose quote is left out. -/
theorem first_quote_bind {more : Unit → Pattern Found} (refuses : Refuses isQuote (more ())) :
    first (maybe (ofScan quote) () >>= more) = Scan.optionally quote >>= fun _ =>
      first (more ()) := by
  apply first_maybe_bind (first_ofScan_bind quote more)
  intro text read
  rcases exists_quote read with ⟨char, rest, rfl, quoted⟩
  exact refuses quoted rest

/-- A name is not shortened before what begins with no further letter and with no quote. -/
theorem first_namePattern_bind {more : String → Pattern Found}
    (noWord : ∀ name, Refuses isWord (more name)) (noQuote : ∀ name, Refuses isQuote (more name)) :
    first (namePattern >>= more) = quotedName >>= fun name => first (more name) := by
  have disjoint : ∀ char, isWord char = true → isQuote char = false := fun _ => ends_quote_of_isWord
  have noLetter : Refuses isQuote Pattern.word := refuses_word fun _ => isWord_of_quote
  have parts : quotedName = Scan.optionally quote >>= fun _ => Scan.word >>= fun name =>
      Scan.optionally quote >>= fun _ => pure name := rfl
  simp only [parts, namePattern, bind_assoc, pure_bind]
  rw [first_quote_bind (noLetter.bind _)]
  apply bind_congr
  intro _
  rw [first_word_bind fun name => (refuses_quote disjoint).maybe_bind (noWord name)]
  apply bind_congr
  intro name
  exact first_quote_bind (noQuote name)

/-! ### Tables -/

/-- The nearest semicolon. -/
theorem first_semicolon (text : List Char) :
    first (shortRun (· ≠ ')') >>= fun _ => ofScan (Scan.mark ';')) text =
      (afterSemicolon? text).map fun rest => ((), rest) := by
  induction text with
  | nil =>
    rw [first_shortRun_bind_nil]
    simp [Scan.mark, Scan.one, afterSemicolon?, bind, StateT.bind]
  | cons char rest ih =>
    rw [first_shortRun_bind_cons, ih]
    rcases eq_or_ne char ';' with rfl | isEnd
    · have marked : Scan.mark ';' (';' :: rest) = some ((), rest) := rfl
      simp [marked, afterSemicolon?]
    · by_cases closes : char = ')'
      · simp [Scan.mark, Scan.one, afterSemicolon?, closes, bind, StateT.bind]
      · simp [Scan.mark, Scan.one, afterSemicolon?, isEnd, closes, bind, StateT.bind]

/-- A closing parenthesis and the nearest semicolon. -/
def closing : Pattern Unit := do
  ofScan (Scan.mark ')')
  let _ ← shortRun (· ≠ ')')
  ofScan (Scan.mark ';')

theorem first_closing_cons (found : Found) (char : Char) (rest : List Char) :
    first (closing >>= fun _ => pure found) (char :: rest) =
      (if char = ')' then afterSemicolon? rest else none).map fun after => (found, after) := by
  have parts : first closing = Scan.mark ')' >>= fun _ =>
      first (shortRun (· ≠ ')') >>= fun _ => ofScan (Scan.mark ';')) := first_ofScan_bind _ _
  rw [first_bind_of_total fun _ => total_pure _, parts, bind_assoc]
  by_cases closes : char = ')'
  · have marked : Scan.mark ')' (char :: rest) = some ((), rest) := by
      simp [Scan.mark_eq_some, closes]
    rw [Scan.bind_of_some marked, if_pos closes]
    cases nearest : afterSemicolon? rest with
    | none => exact Scan.bind_eq_none (by rw [first_semicolon, nearest]; rfl)
    | some after => exact Scan.bind_of_some (by rw [first_semicolon, nearest]; rfl)
  · rw [if_neg closes, Scan.bind_eq_none]
    · rfl
    · exact Scan.bind_eq_none (by simp [Scan.one, closes])

/-- The body is extended until the statement can end behind it, which is where the scan ends it. -/
theorem first_body_map {change : List Char → Found} (text : List Char) :
    first (shortRun (fun _ => true) >>= fun inside => closing >>= fun _ => pure (change inside))
      text =
      (body text).map fun (inside, after) => (change inside, after) := by
  induction text generalizing change with
  | nil =>
    rw [first_shortRun_bind_nil]
    simp [closing, first, bind, StateT.bind, ofScan, Scan.mark, Scan.one, body]
  | cons char rest ih =>
    rw [first_shortRun_bind_cons, first_closing_cons, if_pos rfl, ih, body]
    cases isEnd : if char = ')' then afterSemicolon? rest else none with
    | none => simp [Function.comp_def]
    | some after => simp

theorem first_bodyPattern : first bodyPattern = body := by
  funext text
  have parts : bodyPattern = shortRun (fun _ => true) >>= fun inside => closing >>= fun _ =>
      pure inside := by
    simp [bodyPattern, closing]
  rw [parts, first_body_map]
  simp

theorem refuses_keyword {name : String} {isInside : Char → Bool} {letter : Char}
    (starts : name.toList.head? = some letter) (inWord : isWord letter = true)
    (disjoint : ∀ char, isInside char = true → isWord char = false) :
    Refuses isInside (ofScan (Scan.keyword name)) := by
  apply refuses_ofScan
  intro char inside rest
  rw [Scan.keyword]
  generalize name.toList = letters at starts
  cases letters with
  | nil => cases starts
  | cons first more =>
    cases starts
    apply Scan.bind_eq_none
    have differ : isSameLetter letter char ≠ true := by
      intro same
      have isLetter := Writing.isWord_of_isSameLetter inWord same
      rw [disjoint char inside] at isLetter
      cases isLetter
    simp [Scan.one, differ]

/-- The scan of a statement finds what the first way through the pattern finds. -/
theorem first_tablePattern : first tablePattern = tableStatement := by
  have noSpace : ∀ char, isSpace char = true → isWord char = false :=
    fun _ => Writing.isWord_of_isSpace
  have noTable : Refuses isSpace (ofScan (Scan.keyword "TABLE")) :=
    refuses_keyword rfl (by decide) noSpace
  have noName : Refuses isSpace namePattern :=
    refuses_namePattern (fun _ => quote_of_isSpace) noSpace
  have opening {isInside : Char → Bool} (outside : isInside '(' = false)
      (disjoint : ∀ char, isInside char = true → isSpace char = false) (name : String) :
      Refuses isInside (spaces >>= fun _ => ofScan (Scan.mark '(') >>= fun _ =>
        bodyPattern >>= fun inside =>
        pure (name, inside)) := by
    simp only [spaces, bind_assoc, pure_bind]
    apply Refuses.run_bind disjoint
    exact (refuses_mark outside).bind _
  simp only [tablePattern, tableStatement]
  rw [first_ofScan_bind]
  apply bind_congr
  intro _
  rw [first_someSpaces_bind (noTable.bind _), first_ofScan_bind]
  apply bind_congr
  intro _
  apply bind_congr
  intro _
  rw [first_someSpaces_bind (noName.bind _), first_namePattern_bind
    (opening (by decide) fun _ => not_isSpace_of_isWord)
      (opening (by decide) fun _ => isSpace_of_isQuote)]
  apply bind_congr
  intro _
  apply bind_congr
  intro name
  rw [first_spaces_bind ((refuses_mark (by decide)).bind _), first_ofScan_bind,
    first_bind_of_total fun _ => total_pure _, first_bodyPattern]
  simp only [first_pure]

/-! ### Columns -/

/-- The scan for the groups of a column. -/
def columnGroups : Scan ColumnGroups := do
  let name ← quotedName
  Scan.someSpaces
  let type ← Scan.type (Scan.precision Scan.secondDigits)
  let notNull ← marker "NOT NULL" "NN"
  let primaryKey ← marker "PRIMARY KEY" "PK"
  return ⟨name, type, notNull, primaryKey⟩

/-- The column of the groups, whose flags are read off the text of the markers once more. -/
def ColumnGroups.column (groups : ColumnGroups) : Column where
  name := groups.name
  type := groups.type
  isPrimaryKey := Markers.isPrimaryKey groups.primaryKey ||
    "pk_".toList.isPrefixOf (lower groups.name.toList)
  isNullable := !Markers.isNotNull groups.notNull

/-- A comma between sizes is not left out, because the closing parenthesis does not stand there. -/
theorem first_secondSize_bind {more : List Char → Pattern Found}
    (noDigit : ∀ found, Refuses isDecimal (more found)) (noComma : Refuses (· = ',') (more [])) :
    first (maybe secondSizePattern [] >>= more) = Scan.secondDigits >>= fun found =>
      first (more found) := by
  apply first_maybe_bind
  · simp only [secondSizePattern, bind_assoc, pure_bind]
    rw [first_ofScan_bind]
    apply bind_congr
    intro _
    exact first_someRun_bind fun digits => noDigit (',' :: digits)
  · intro text read
    cases text with
    | nil => exact absurd rfl read
    | cons char rest =>
      by_cases isComma : char = ','
      · exact noComma (by simpa using isComma) rest
      · exact absurd (Scan.bind_eq_none (Scan.bind_eq_none (by simp [Scan.one, isComma]))) read

theorem first_sizesPattern : first sizesPattern = Scan.precision Scan.secondDigits := by
  have noDigit : Refuses isDecimal secondSizePattern := (refuses_mark (by decide)).bind _
  have closes {isInside : Char → Bool} (outside : isInside ')' = false) (found : List Char) :
      Refuses isInside (ofScan (Scan.mark ')') >>= fun _ => pure found) :=
    (refuses_mark outside).bind _
  simp only [sizesPattern, Scan.precision]
  rw [first_ofScan_bind]
  apply bind_congr
  intro _
  rw [first_someRun_bind fun digits => noDigit.maybe_bind (closes (by decide) _)]
  apply bind_congr
  intro digits
  rw [first_secondSize_bind (fun more => closes (by decide) _) (closes (by decide) _)]
  simp only [first_ofScan_bind, first_pure]

theorem first_typePattern : first typePattern = Scan.type (Scan.precision Scan.secondDigits) := by
  have total (name : String) (sizes : List Char) : Total (pure (name ++ String.ofList sizes)) :=
    total_pure _
  have firstWord : first Pattern.word = Scan.word := by
    rw [Pattern.word, first_map, first_someRun]
    rfl
  rw [typePattern, first_bind_of_total fun name => (total_maybe _ _).bind (total name), firstWord]
  apply bind_congr
  intro name
  rw [first_bind_of_total (total name), first_maybe, first_sizesPattern]
  simp only [first_pure]

/-- Whichever of the keywords is there, the scan of the marker returns it as it is written. -/
theorem first_markerPattern (long short : String) :
    first (markerPattern long short) = marker long short := by
  have words (text : List Char) : (spelled long <|> spelled short) text =
      (Prod.fst <$> Scan.withText (Scan.keyword long <|> Scan.keyword short)) text := by
    change (spelled long text <|> spelled short text) =
      ((Scan.keyword long text <|> Scan.keyword short text).map _ >>= _)
    change ((Scan.keyword long text).map _ >>= _ <|> (Scan.keyword short text).map _ >>= _) = _
    cases Scan.keyword long text <;> rfl
  rw [markerPattern, first_bind_of_total fun _ => total_maybe _ _, spaces,
    first_bind_of_total fun _ => total_pure _, first_run, marker]
  apply bind_congr
  intro _
  funext text
  simp only [first_maybe, first_orElse, first_ofScan]
  change (((spelled long <|> spelled short) text <|> some ([], text)) <|> some ([], text)) =
    ((Prod.fst <$> Scan.withText (Scan.keyword long <|> Scan.keyword short)) text <|> some
      ([], text))
  rw [words]
  cases (Prod.fst <$> Scan.withText (Scan.keyword long <|> Scan.keyword short)) text <;> rfl

theorem first_columnPattern : first columnPattern = columnGroups := by
  have noSpace : ∀ char, isSpace char = true → isWord char = false :=
    fun _ => Writing.isWord_of_isSpace
  have totalMarker (long short : String) : Total (markerPattern long short) :=
    total_spaces.bind fun _ => total_maybe _ _
  have gap {isInside : Char → Bool} (disjoint : ∀ char, isInside char = true →
      isSpace char = false) :
      Refuses isInside Pattern.someSpaces := (refuses_someRun disjoint).bind _
  have noType : Refuses isSpace typePattern := (refuses_word noSpace).bind _
  have totalMarkers (name type : String) : Total (markerPattern "NOT NULL" "NN" >>= fun notNull =>
      markerPattern "PRIMARY KEY" "PK" >>= fun primaryKey =>
        pure (⟨name, type, notNull, primaryKey⟩ : ColumnGroups)) :=
    (totalMarker _ _).bind fun _ => (totalMarker _ _).bind fun _ => total_pure _
  rw [columnPattern, first_namePattern_bind (fun _ => (gap fun _ => not_isSpace_of_isWord).bind _)
    fun _ => (gap fun _ => isSpace_of_isQuote).bind _]
  apply bind_congr
  intro name
  rw [first_someSpaces_bind (noType.bind _), first_bind_of_total (totalMarkers name),
    first_typePattern]
  apply bind_congr
  intro _
  apply bind_congr
  intro type
  rw [first_bind_of_total fun _ => (totalMarker _ _).bind fun _ => total_pure _]
  simp only [first_bind_of_total fun _ => total_pure _, first_markerPattern, first_pure]

/-- The scan of a column reads the flags off the groups that the pattern matches. -/
theorem column_eq_map : column = ColumnGroups.column <$> first columnPattern := by
  rw [first_columnPattern, columnGroups, column]
  simp only [map_eq_pure_bind, bind_assoc, pure_bind]
  rfl

end Schemagram.Sql
