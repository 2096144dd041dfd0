import Schemagram.Screen.EmojiTable
import Schemagram.Screen.Width
import Schemagram.Text.Case
import Schemagram.Text.Piece

/-!
# Emoji by name

A name between two colons stands for an emoji.  Behind the name `-text` or `-emoji` may ask for one
of its two forms.  What stands between colons and is no name of an emoji stays as it is.
-/

namespace Schemagram.Screen

/-- An emoji: its picture, and its names, with those first that stand for the picture in a skin tone
too. -/
structure Emoji where
  picture : List Char
  tonedNames : List (List Char)
  plainNames : List (List Char)

namespace Emoji

/-- Whether a name in the table is marked as one that stands for the picture in a skin tone too. -/
def isMarked (name : List Char) : Bool := name.getLast? = some '+'

def ofLine (line : String) : Emoji :=
  let parts := Text.splitOn ' ' line.toList
  let names := parts.drop 1
  ⟨parts.headD [], (names.filter isMarked).map List.dropLast, names.filter (!isMarked ·)⟩

def all : List Emoji := emojiLines.map ofLine

/-- The skin tones: the ends of the names, and the characters that give a picture the tone. -/
def tones : List (List Char × Char) := [
  ("_light_skin_tone".toList, Char.ofNat 0x1F3FB),
  ("_medium-light_skin_tone".toList, Char.ofNat 0x1F3FC),
  ("_medium_skin_tone".toList, Char.ofNat 0x1F3FD),
  ("_medium-dark_skin_tone".toList, Char.ofNat 0x1F3FE),
  ("_dark_skin_tone".toList, Char.ofNat 0x1F3FF)]

/-- A picture in a skin tone, which stands behind its first character and in place of a selector
there. -/
def inTone (tone : Char) : List Char → List Char
  | [] => []
  | first :: more =>
    first :: tone :: if more.head? = some pictureSelector then more.drop 1 else more

def withoutEnd? (ending text : List Char) : Option (List Char) :=
  if ending.isSuffixOf text then some (text.take (text.length - ending.length)) else none

/-- The picture that a name in small letters stands for. -/
def ofName? (name : List Char) : Option (List Char) :=
  match all.find? fun emoji => emoji.tonedNames.contains name || emoji.plainNames.contains name with
  | some emoji => some emoji.picture
  | none => tones.findSome? fun (ending, tone) => do
    let name ← withoutEnd? ending name
    let emoji ← all.find? (·.tonedNames.contains name)
    return inTone tone emoji.picture

/-- The picture that a text between colons stands for. -/
def picture? (inside : List Char) : Option (List Char) :=
  let named (name : List Char) := ofName? (Text.lowerCase name)
  match withoutEnd? "-emoji".toList inside, withoutEnd? "-text".toList inside with
  | some name, _ => (named name).map (· ++ ['\ufe0f'])
  | none, some name => (named name).map (· ++ ['\ufe0e'])
  | none, none => named inside

/-- Replaces names in the pieces of a text that stand behind a colon each. -/
def replaceBehind : List (List Char) → List Char
  | [] => []
  | [last] => ':' :: last
  | inside :: next :: more =>
    if inside.any Text.isSpace then ':' :: inside ++ replaceBehind (next :: more)
    else (picture? inside).getD (':' :: inside ++ [':']) ++ next ++ replaceBehind more

/-- A text with pictures in place of the names between colons. -/
def replace (text : List Char) : List Char :=
  match Text.splitOn ':' text with
  | [] => []
  | first :: behind => first ++ replaceBehind behind

end Emoji

end Schemagram.Screen
