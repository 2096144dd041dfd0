import Schemagram.Keyed
import Schemagram.Decimal.Natural
import Schemagram.Screen.ColorTable
import Schemagram.Screen.Wrap
import Schemagram.Text.Hex
import Schemagram.Text.Case
import Schemagram.Text.CharClass

/-!
# Styles

A style tag and the tag that closes it may describe one style in different words: attributes have
short names and stand in any order among the colors.  The normal form of a description is the same
for all of them.  Words that describe no style are their own normal form, apart from case.
-/

namespace Schemagram.Screen

/-- A style: the attributes that it sets or takes away, two colors and a link. -/
structure Style where
  attributes : List (String × Bool)
  color? : Option String
  background? : Option String
  link? : Option String

namespace Style

/-- The style that changes nothing. -/
def plain : Style := ⟨[], none, none, none⟩

/-- The attributes in the order of the normal form. -/
def attributeNames : List String := [
  "bold", "dim", "italic", "underline", "blink", "blink2", "reverse", "conceal", "strike",
  "underline2",
  "frame", "encircle", "overline"]

def shortNames : List (String × String) := [
  ("d", "dim"), ("b", "bold"), ("i", "italic"), ("u", "underline"), ("r", "reverse"),
  ("c", "conceal"),
  ("s", "strike"), ("uu", "underline2"), ("o", "overline")]

def attribute? (word : String) : Option String :=
  if attributeNames.contains word then some word else Keyed.get? word shortNames

/-- The text between two given ones, if a word is made so. -/
def between? (opening closing word : List Char) : Option (List Char) :=
  if opening.isPrefixOf word && closing.isSuffixOf (word.drop opening.length) then
    some ((word.drop opening.length).take (word.length - opening.length - closing.length))
  else none

/-- Whether decimal digits of any script denote a number below 256. -/
def isByte (digits : List Char) : Bool :=
  !digits.isEmpty && (digits.mapM Text.decimalValue?).any fun values =>
    values.foldl (fun number value => 10 * number + value) 0 < 256

/-- Whether a word in lower case describes a color. -/
def isColor (word : String) : Bool :=
  let chars := word.toList
  word = "default" || colorNames.contains word ||
    (chars.length = 7 && chars.head? = some '#' && chars.tail.all fun char =>
      (Text.hexValue? char).isSome) ||
    ((between? "color(".toList [')'] chars).any fun inside =>
      inside.length ≤ 3 && inside.all Decimal.isDigit && isByte inside) ||
    ((between? "rgb(".toList [')'] chars).any fun inside =>
      (Text.splitOn ',' inside).length = 3 && (Text.splitOn ',' inside).all isByte)

def lower (word : String) : String := String.ofList (Text.lowerCase word.toList)

/-- Adds a word that stands alone: an attribute or a color. -/
def addWord (style : Style) (word : String) : Option Style :=
  match attribute? (lower word) with
  | some name => some { style with attributes := Keyed.put name true style.attributes }
  | none => if isColor (lower word) then some { style with color? := some (lower word) } else none

def addWords (style : Style) : List String → Option Style
  | [] => some style
  | [word] => style.addWord word
  | word :: next :: more =>
    if lower word = "on" then
      if isColor (lower next) then addWords { style with background? := some (lower next) }
        more else none
    else if lower word = "not" then do
      let name ← attribute? next
      addWords { style with attributes := Keyed.put name false style.attributes } more
    else if lower word = "link" then addWords { style with link? := some next } more
    else do
      let style ← style.addWord word
      addWords style (next :: more)

def normalWords (style : Style) : List String :=
  (attributeNames.filterMap fun name =>
    (Keyed.get? name style.attributes).map fun isSet => if isSet then name else "not " ++ name) ++
  style.color?.toList ++
  (style.background?.toList.flatMap fun color => ["on", color]) ++
  style.link?.toList.flatMap fun link => ["link", link]

def normal (description : List Char) : String :=
  let trimmed := String.ofList (Text.trim description)
  if trimmed = "none" then "none"
  else
    match plain.addWords ((words description).map fun word => String.ofList (Text.trim word)) with
    | some style =>
      let normal := style.normalWords
      if normal.isEmpty then "none" else String.intercalate " " normal
    | none => lower trimmed

end Style

end Schemagram.Screen
