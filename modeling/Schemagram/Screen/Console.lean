import Schemagram.Screen.Markup
import Schemagram.Screen.Renderer

/-!
# A console

A screen without styles, of a number of columns: a table is drawn with lines around its cells, and
every column of it is as wide as its widest cell, whether or not the console has room for the table.

Of the records the first one carries the time; the ones that follow at the same time leave it out.
-/

namespace Schemagram.Screen

open Text (CodePoint)

/-! ### Tables -/

namespace View

/-- The lines of a cell whose widths count. -/
def cellLines (text : List Char) : List (List Char) :=
  Text.splitOn '\n' (text.map fun char => if endsLine char then '\n' else char)

/-- The columns of the screen that cells need. -/
def cellsWidth (cells : List (List Char)) : Nat :=
  ((cells.flatMap cellLines).map width).foldl max 0

/-- A line through all columns, with the characters at its ends, at crossings and in between. -/
def rule (left cross right line : Char) (widths : List Nat) : List Char :=
  left :: Text.join [cross] (widths.map fun width => List.replicate (width + 2) line) ++ [right]

/-- The lines of the cells of a row, with a bar between the cells. -/
def rowLines (bar : Char) (widths : List Nat) (cells : List (List Char)) : List (List Char) :=
  let wrapped := List.zipWith (wrap .left .ellipsis) widths cells
  let height := (wrapped.map List.length).foldl max 0
  (List.range height).map fun index =>
    bar :: Text.join [bar] (List.zipWith (fun width lines =>
      ' ' :: (lines[index]?).getD (blanks width) ++ [' ']) widths wrapped) ++ [bar]

/-- Columns of equal height as rows. -/
def rows (height : Nat) (columns : List (List (List Char))) : List (List (List Char)) :=
  columns.foldr (List.zipWith (· :: ·)) (List.replicate height [])

/-- The columns of the screen that a table of some columns needs. -/
def totalWidth (columns : List (List (List Char))) : Nat :=
  ((columns.map cellsWidth).map (· + 3)).foldl (· + ·) 1

/-- The lines of a table: its title, the heads and cells of its columns, and its caption. -/
def lines (title : List Char) (columns : List (List (List Char))) (caption? : Option (List Char)) :
    List (List Char) :=
  let widths := columns.map cellsWidth
  let height := (columns.map List.length).foldl max 0
  let annotation (text : List Char) := wrap .center .fold (totalWidth columns) text
  let drawn := match rows height columns with
    | [] => []
    | head :: body =>
      rowLines '┃' widths head ++ [rule '┡' '╇' '┩' '━' widths] ++
        body.flatMap (rowLines '│' widths)
  annotation title ++ [rule '┏' '┳' '┓' '━' widths] ++ drawn ++ [rule '└' '┴' '┘' '─' widths] ++
    (caption?.map annotation).getD []

end View

/-! ### Pages -/

namespace Console

def unlines (lines : List (List Char)) : List Char := lines.flatMap (· ++ ['\n'])

/-- A text as characters, with a replacement for what is none. -/
def charsOf (text : List CodePoint) : List Char := text.map fun point => point.toChar?.getD '\ufffd'

/-- The surrogates without partners in a text. -/
def surrogates (text : List CodePoint) : List CodePoint := text.filter (·.toChar?.isNone)

/-- Characters as code points, with some surrogates in front.  Where they stand does not matter,
since a page that holds one is never printed. -/
def withSurrogates (found : List CodePoint) (chars : List Char) : List CodePoint :=
  found ++ chars.map .ofChar

def read (text : List CodePoint) : Except String (List CodePoint) :=
  match Markup.plain (charsOf text) with
  | .ok shown => .ok (withSurrogates (surrogates text) shown)
  | .error fault => .error fault.message

/-- The heads and cells of a table as characters, column by column. -/
def columnsOf (view : View) : List (List (List Char)) :=
  view.columns.map fun column => (column.head :: column.cells).map charsOf

def table (view : View) : List CodePoint :=
  withSurrogates (view.texts.flatMap surrogates)
    (unlines (View.lines (charsOf view.title) (columnsOf view) (view.caption?.map charsOf)))

def line (columns : Nat) (text : List CodePoint) : List CodePoint :=
  withSurrogates (surrogates text) (unlines (wrap .none .fold columns (charsOf text)))

/-- A message on lines of its own. -/
def message (columns : Nat) (sign : Sign) (text : String) : List Char :=
  unlines (wrap .none .fold columns (sign.text.toList ++ ' ' :: Markup.literal text.toList))

/-- The lines of a record, with the time or blanks in front. -/
def record (columns : Nat) (time : List Char) (event : Event) : List (List Char) :=
  let level := "DEBUG   ".toList
  let texts := wrap .left .fold (columns - time.length - level.length - 2)
    (Markup.withoutActing event.message.toList)
  texts.mapIdx fun index text =>
    let start := if index = 0 then time ++ ' ' :: level else blanks (time.length + 1 + level.length)
    start ++ ' ' :: text

def records (columns : Nat) (time : String) : List Event → List Char
  | [] => []
  | first :: more =>
    unlines (record columns time.toList first ++ more.flatMap (record columns (blanks time.length)))

end Console

/-- A console of a number of columns at some time. -/
def console (columns : Nat) (time : String) : Renderer where
  read := Console.read
  hasRoom view := View.totalWidth (Console.columnsOf view) ≤ columns
  table := Console.table
  line := Console.line columns
  message := Console.message columns
  records := Console.records columns time

end Schemagram.Screen
