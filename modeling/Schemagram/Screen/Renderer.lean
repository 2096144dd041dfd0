import Schemagram.Event
import Schemagram.Screen.View
import Schemagram.Text.CharClass
import Schemagram.Text.Piece

/-!
# Screens

Texts become pages in a library of its own, of which a program knows what it asks for (`Renderer`)
and what is documented (`Renderer.Documented`).  Texts are marked: tags between brackets set styles
and are not shown, a tag with a slash closes what another one has opened, and names between colons
stand for pictures.

A page is printed as characters, so that one that holds a surrogate without its partner is not
printed.
-/

namespace Schemagram.Screen

open Text (CodePoint isSpace)

/-- The kinds of messages. -/
inductive Sign where
  | failure
  | success
  | information
  deriving DecidableEq, Repr

/-- What stands in front of a message. -/
def Sign.text : Sign → String
  | .failure => "Error:"
  | .success => "✓"
  | .information => "i"

/-- What a program asks of a screen. -/
structure Renderer where
  /-- The text that a marked text shows, or why its marks are refused. -/
  read : List CodePoint → Except String (List CodePoint)
  /-- Whether a table is not wider than the screen. -/
  hasRoom : View → Bool
  /-- The page of a table whose texts have been read. -/
  table : View → List CodePoint
  /-- The page of a line whose text has been read. -/
  line : List CodePoint → List CodePoint
  /-- A message with its sign in front.  Its text is not marked. -/
  message : Sign → String → List Char
  records : List Event → List Char

/-! ### Pages -/

/-- Why a page is not printed. -/
inductive PageFault where
  | markup (reason : String)
  | surrogate
  deriving DecidableEq, Repr

def PageFault.message : PageFault → String
  | .markup reason => reason
  | .surrogate => "'utf-8' codec can't encode a surrogate: surrogates not allowed"

/-- A page as characters. -/
def encoded (page : List CodePoint) : Except PageFault (List Char) :=
  match page.mapM CodePoint.toChar? with
  | some chars => .ok chars
  | none => .error .surrogate

namespace Renderer

variable (renderer : Renderer)

def tablePage (view : View) : Except PageFault (List Char) := do
  let shown ← (view.readBy renderer.read).mapError .markup
  encoded (renderer.table shown)

def linePage (text : List CodePoint) : Except PageFault (List Char) := do
  let shown ← (renderer.read text).mapError .markup
  encoded (renderer.line shown)

end Renderer

/-! ### What is documented -/

/-- Controls that a screen would act upon. -/
def isActing (char : Char) : Bool :=
  char = '\x07' || char = '\x08' || char = '\x0b' || char = '\x0c' || char = '\r'

/-- Whether a character means nothing on a screen, whatever stands around it. -/
def isQuiet (char : Char) : Bool := char ≠ '[' && char ≠ ':' && !isActing char

/-- Whether a line of a cell ends at a character, as far as its width is concerned. -/
def endsLine (char : Char) : Bool :=
  char = '\n' || char = '\x1c' || char = '\x1d' || char = '\x1e' || char = '\x85' ||
    char = '\u2028' ||
    char = '\u2029'

/-- A text that stands on one line as it is: it has no line end, no tab, and no white space behind
it. -/
structure IsLine (text : List Char) : Prop where
  unbroken : ∀ char ∈ text, endsLine char = false
  noTab : '\t' ∉ text
  noSpaceBehind : Text.dropEndWhile isSpace text = text

/-- The first bracket of a text starts a closing tag, so that nothing has been opened before. -/
def ClosesFirst (text : List Char) : Prop :=
  ∃ before name after, text = before ++ '[' :: '/' :: (name ++ ']' :: after) ∧ '[' ∉ before ∧
    before.getLast? ≠ some '\\' ∧ '[' ∉ name ∧ ']' ∉ name

/-- A text is that of an opening tag, which is a word in small letters, between two others that mean
nothing. -/
def HasTag (text before after : List Char) : Prop :=
  ∃ word, text = before ++ '[' :: (word ++ ']' :: after) ∧ word ≠ [] ∧
    (∀ char ∈ word, 'a' ≤ char ∧ char ≤ 'z') ∧ (∀ char ∈ before ++ after, isQuiet char = true) ∧
    before.getLast? ≠ some '\\'

/-- A text without surrogates. -/
def IsChars (text : List CodePoint) : Prop := ∃ chars : List Char, text = chars.map .ofChar

/-- What is documented of a screen. -/
structure Renderer.Documented (renderer : Renderer) : Prop where
  /-- What means nothing is shown as it is. -/
  read_quiet : ∀ text : List Char, (∀ char ∈ text, isQuiet char = true) →
    renderer.read (text.map .ofChar) = .ok (text.map .ofChar)
  /-- A tag between brackets is not shown. -/
  read_tag : ∀ text before after, HasTag text before after →
    renderer.read (text.map .ofChar) = .ok ((before ++ after).map .ofChar)
  /-- Only a closing tag can be wrong. -/
  read_unclosing : ∀ text : List Char, ¬['[', '/'] <:+: text → ∃ shown,
    renderer.read (text.map .ofChar) = .ok shown
  /-- A closing tag without its opening one is an error. -/
  read_closing : ∀ text, ClosesFirst text → ∃ reason,
    renderer.read (text.map .ofChar) = .error reason
  /-- No surrogates come into what is read and laid out. -/
  read_chars : ∀ text shown, IsChars text → renderer.read text = .ok shown → IsChars shown
  table_chars : ∀ view : View, (∀ text ∈ view.texts, IsChars text) → IsChars (renderer.table view)
  line_chars : ∀ text, IsChars text → IsChars (renderer.line text)
  /-- Where a table has room, a cell that stands on one line is there as it is. -/
  table_cell : ∀ (view : View) (cell : List Char), view.IsEven → renderer.hasRoom view = true →
    cell.map .ofChar ∈ view.cells → IsLine cell → cell.map .ofChar <:+: renderer.table view
  /-- A message is a line with its sign in front. -/
  message_line : ∀ sign text, ∃ shown : List Char,
    (renderer.message sign text).map .ofChar =
      renderer.line ((sign.text.toList ++ ' ' :: shown).map .ofChar)

end Schemagram.Screen
