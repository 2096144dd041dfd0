import Schemagram.Screen.WidthTable

/-!
# Widths on the screen

How many columns a text takes.  Most characters take one, some none, and wide ones two.  Pictures
that are joined show as the first of them, and a character with a variation selector behind it as
its picture.
-/

namespace Schemagram.Screen

open Text (covers)

/-- The columns of a character on its own. -/
def charWidth (char : Char) : Nat :=
  if char.toNat < 128 then if 0x20 ≤ char.toNat && char.toNat ≠ 0x7F then 1 else 0
  else if covers zeroRanges char.toNat then 0
  else if covers wideRanges char.toNat then 2
  else 1

/-- What joins a picture to the one before. -/
def joiner : Char := '\u200d'

/-- What asks for the picture of the character before. -/
def pictureSelector : Char := '\ufe0f'

/-- The columns of a text behind a character that a selector may still widen, if there is one. -/
def widthBehind (last? : Option Char) : List Char → Nat
  | [] => 0
  | [char] =>
    if char = joiner then 0
    else if char = pictureSelector then
      if last?.any fun last => covers pictureRanges last.toNat then 1 else 0
    else charWidth char
  | char :: next :: rest =>
    if char = joiner then widthBehind last? rest
    else if char = pictureSelector then
      (if last?.any fun last => covers pictureRanges last.toNat then 1 else 0) +
        widthBehind none (next :: rest)
    else
      charWidth char + widthBehind (if charWidth char = 0 then last? else some char) (next :: rest)

def width (text : List Char) : Nat := widthBehind none text

def blanks (count : Nat) : List Char := List.replicate count ' '

/-- The beginning of a text that takes a number of columns, filled up with blanks. -/
def cut : (columns : Nat) → List Char → List Char
  | columns, [] => blanks columns
  | columns, char :: rest =>
    if charWidth char ≤ columns then char :: cut (columns - charWidth char) rest else blanks columns

/-- A text with blanks behind it up to a number of columns. -/
def padEnd (columns : Nat) (text : List Char) : List Char := text ++ blanks (columns - width text)

end Schemagram.Screen
