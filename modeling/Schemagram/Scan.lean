import Schemagram.Text.CharClass
import Schemagram.Text.Letter

/-!
# Scans

A scan recognises one form at the beginning of a text and returns what it found with the rest of the
text.  Scans are deterministic: every form they recognise is told apart by its next character, so
that a longest run is never given back.

`search` finds the first place of a text at which a scan succeeds, `all` the places one after the
other, each after the end of the one before.
-/

namespace Schemagram

/-- A scan of the beginning of a text. -/
abbrev Scan := StateT (List Char) Option

namespace Scan

open Text (isWord isSpace isDecimal)

variable {Found : Type}

theorem bind_eq_some {Other : Type} {scan : Scan Found} {more : Found → Scan Other}
    {text rest : List Char} {result : Other} :
    (scan >>= more) text = some (result, rest) ↔
      ∃ found after, scan text = some (found, after) ∧ more found after = some (result, rest) := by
  simp [bind, StateT.bind, Option.bind_eq_some_iff]

/-- A character that a test accepts. -/
def one (accepts : Char → Bool) : Scan Char
  | [] => none
  | char :: rest => if accepts char then some (char, rest) else none

def mark (char : Char) : Scan Unit := do
  let _ ← one (· = char)

/-- A text, character by character, under a comparison of characters. -/
def literal (same : Char → Char → Bool) : List Char → Scan Unit
  | [] => pure ()
  | char :: more => do
    let _ ← one (same char)
    literal same more

def exactly (text : String) : Scan Unit :=
  literal (fun expected char => expected = char) text.toList

def keyword (text : String) : Scan Unit := literal Text.isSameLetter text.toList

/-- The longest run of characters of a class; it may be empty. -/
def run (isInside : Char → Bool) : Scan (List Char) := fun text =>
  some (text.takeWhile isInside, text.dropWhile isInside)

/-- The longest run of characters of a class, of which there is at least one. -/
def someRun (isInside : Char → Bool) : Scan (List Char) := fun text =>
  match text.takeWhile isInside with
  | [] => none
  | inside => some (inside, text.dropWhile isInside)

/-- White space, if there is any. -/
def spaces : Scan Unit := do
  let _ ← run isSpace

/-- White space, of which there is some. -/
def someSpaces : Scan Unit := do
  let _ ← someRun isSpace

def word : Scan String := String.ofList <$> someRun isWord

/-- A form that may be missing. -/
def optionally (scan : Scan Unit) : Scan Unit := scan <|> pure ()

/-- Finds one after the other without anything between them, as many as there are. -/
def many (scan : Scan Found) (text : List Char) : Option (List Found × List Char) :=
  match scan text with
  | none => some ([], text)
  | some (first, rest) =>
    if rest.length < text.length then
      (many scan rest).map fun (more, after) => (first :: more, after)
    else some ([], text)
termination_by text.length

/-- Digits, between which single underscores may stand. -/
def digitGroups (isDigit : Char → Bool) : Scan (List Char) := do
  let first ← one isDigit
  let more ← many do
    optionally (mark '_')
    one isDigit
  return first :: more

/-- What a scan finds, with the text that it takes. -/
def withText (scan : Scan Found) : Scan (List Char × Found) := fun text =>
  (scan text).map fun (found, rest) => ((text.take (text.length - rest.length), found), rest)

/-- The first find in a text. -/
def search (scan : Scan Found) : List Char → Option Found
  | [] => (scan []).map Prod.fst
  | char :: text =>
    match scan (char :: text) with
    | some (found, _) => some found
    | none => search scan text

/-- All finds in a text, each of them behind the end of the one before. -/
def all (scan : Scan Found) (text : List Char) : List Found :=
  match text with
  | [] => []
  | char :: text =>
    match scan (char :: text) with
    | some (found, rest) => found :: all scan (if rest.length ≤ text.length then rest else text)
    | none => all scan text
termination_by text.length
decreasing_by
  · split <;> simp only [List.length_cons] <;> omega
  · simp only [List.length_cons]; omega

/-! ### Forms that several notations share -/

/-- A word, a dot and a word without anything between them. -/
def dotted : Scan (String × String) := do
  let table ← word
  mark '.'
  let column ← word
  return (table, column)

/-- Digits between parentheses after a type name; `second` reads what may follow the first
digits. -/
def precision (second : Scan (List Char)) : Scan (List Char) := do
  mark '('
  let digits ← someRun isDecimal
  let more ← second
  mark ')'
  return '(' :: digits ++ more ++ [')']

/-- A comma and digits, if they are there. -/
def secondDigits : Scan (List Char) :=
  (do
    mark ','
    let digits ← someRun isDecimal
    return ',' :: digits) <|> pure []

/-- A type: a word, directly followed by its precision if it has one. -/
def type (precision : Scan (List Char)) : Scan String := do
  let name ← word
  let sizes ← precision <|> pure []
  return name ++ String.ofList sizes

/-- The text between braces, which may span lines but holds no closing brace. -/
def braces : Scan (List Char) := do
  mark '\x7b'
  let inside ← run (· ≠ '\x7d')
  mark '\x7d'
  return inside

/-- A keyword, a name and a block in braces. -/
def block (keyword : Scan Unit) : Scan (String × List Char) := do
  keyword
  someSpaces
  let name ← word
  spaces
  let inside ← braces
  return (name, inside)

end Scan

end Schemagram
