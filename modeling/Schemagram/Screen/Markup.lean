import Schemagram.Scan
import Schemagram.Screen.Emoji
import Schemagram.Screen.Renderer
import Schemagram.Screen.Style

/-!
# Marked text

Text in which tags between brackets set the style: a tag opens a style, a tag with a slash closes
the last one that is open or the one that it names.  On a screen without styles the tags vanish.  A
backslash before a tag makes it text, and so does every second one of several.

A closing tag without its opening one is a fault.  A bracket that starts no tag is text, and a
backslash before it is dropped.

Between tags the names of emoji stand for their pictures.
-/

namespace Schemagram.Screen.Markup

/-- Why a text is not well marked. -/
inductive Fault where
  | unopened (tag : List Char) (position : Nat)
  | nothingToClose (position : Nat)
  deriving DecidableEq, Repr

def Fault.message : Fault → String
  | .unopened tag position =>
    "closing tag '[" ++ String.ofList tag ++ "]' at position " ++ Decimal.text position ++
      " doesn't match any open tag"
  | .nothingToClose position =>
    "closing tag '[/]' at position " ++ Decimal.text position ++ " has nothing to close"

/-! ### Pieces -/

/-- Text that is shown, or a tag with the backslashes before it. -/
inductive Piece where
  | shown (text : List Char)
  | tag (position : Nat) (backslashes : Nat) (inside : List Char)
  deriving DecidableEq, Repr

/-- What the text between the brackets of a tag starts with. -/
def isTagStart (char : Char) : Bool :=
  ('a' ≤ char && char ≤ 'z') || char = '#' || char = '/' || char = '@'

/-- A tag: the backslashes before it, and the text between its brackets. -/
def tag : Scan (Nat × List Char) := do
  let backslashes ← Scan.run (· = '\\')
  Scan.mark '['
  let first ← Scan.one isTagStart
  let more ← Scan.run fun char => char ≠ '[' && char ≠ ']'
  Scan.mark ']'
  return (backslashes.length, first :: more)

/-- Puts a character that is shown before some pieces. -/
def putShown (char : Char) : List Piece → List Piece
  | .shown text :: more => .shown (char :: text) :: more
  | pieces => .shown [char] :: pieces

/-- The pieces of a text from a position on, with all that stands between two tags as one piece. -/
def pieces (position : Nat) (text : List Char) : List Piece :=
  match text with
  | [] => []
  | char :: rest =>
    match tag (char :: rest) with
    | some ((backslashes, inside), after) =>
      .tag position backslashes inside ::
        pieces (position + backslashes + inside.length + 2)
          (if after.length ≤ rest.length then after else rest)
    | none =>
      if char = '\\' && rest.head? = some '[' then putShown '['
        (pieces (position + 2) (rest.drop 1))
      else putShown char (pieces (position + 1) rest)
termination_by text.length
decreasing_by
  · split <;> simp only [List.length_cons] <;> omega
  · simp only [List.length_drop, List.length_cons]; omega
  · simp only [List.length_cons]; omega

/-! ### Showing -/

/-- The text that pieces show, while the styles of some tags are open, the last one first. -/
def show? (opened : List String) : List Piece → Except Fault (List Char)
  | [] => .ok []
  | .shown text :: more => (show? opened more).map (Emoji.replace text ++ ·)
  | .tag position backslashes inside :: more =>
    if backslashes % 2 = 1 then
      (show? opened more).map
        (List.replicate (backslashes / 2) '\\' ++ Emoji.replace ('[' :: inside ++ [']']) ++ ·)
    else
      let name := inside.takeWhile (· ≠ '=')
      let shown : Except Fault (List Char) :=
        if name.head? = some '/' then
          let style := Text.trim (name.drop 1)
          if style.isEmpty then
            match opened with
            | [] => .error (.nothingToClose (position + backslashes))
            | _ :: others => show? others more
          else if opened.contains (Style.normal style) then show?
            (opened.erase (Style.normal style)) more
          else .error (.unopened inside (position + backslashes))
        else show? (Style.normal name :: opened) more
      shown.map (List.replicate (backslashes / 2) '\\' ++ ·)

/-- A text without the controls that a screen would act upon. -/
def withoutActing (text : List Char) : List Char := text.filter (!isActing ·)

/-- What a marked text shows. -/
def plain (text : List Char) : Except Fault (List Char) :=
  (show? [] (pieces 0 text)).map withoutActing

def Piece.asText : Piece → List Char
  | .shown text => Emoji.replace text
  | .tag _ backslashes inside =>
    List.replicate backslashes '\\' ++ Emoji.replace ('[' :: inside ++ [']'])

/-- What a text shows whose tags are not meant as such.  A backslash is dropped before a bracket
that starts no tag, and a lone one at the end is doubled. -/
def literal (text : List Char) : List Char :=
  let shown := (pieces 0 text).flatMap Piece.asText
  let ending := text.reverse.takeWhile (· = '\\')
  withoutActing (if ending.length = 1 then shown ++ ['\\'] else shown)

end Schemagram.Screen.Markup
