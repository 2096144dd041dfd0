import Schemagram.Text.CodePoint

/-!
# Tables on the screen

A table of columns with a title above and perhaps a caption below.  All of its texts are marked, and
a screen reads the marks before it lays the table out.

Of several faults in the marks the first one counts, column by column, then in the title, then in
the caption.
-/

namespace Schemagram.Screen

open Text (CodePoint points)

/-- A column: its head and its cells. -/
structure View.Column where
  head : List CodePoint
  cells : List (List CodePoint)

def View.Column.ofStrings (head : String) (cells : List String) : View.Column :=
  ⟨points head, cells.map points⟩

/-- A table on the screen. -/
structure View where
  title : List CodePoint
  columns : List View.Column
  caption? : Option (List CodePoint)

namespace View

/-- The heads and cells of a table. -/
def cells (view : View) : List (List CodePoint) := view.columns.flatMap fun column =>
    column.head :: column.cells

/-- All texts of a table. -/
def texts (view : View) : List (List CodePoint) :=
  view.title :: (view.cells ++ view.caption?.toList)

/-- All columns of a table are of one height. -/
def IsEven (view : View) : Prop := ∃ height, ∀ column ∈ view.columns, column.cells.length = height

variable {Fault : Type}

def Column.readBy (read : List CodePoint → Except Fault (List CodePoint)) (column : Column) :
    Except Fault Column := do
  let head ← read column.head
  let cells ← column.cells.mapM read
  return ⟨head, cells⟩

/-- A table with its texts read. -/
def readBy (read : List CodePoint → Except Fault (List CodePoint)) (view : View) :
    Except Fault View := do
  let columns ← view.columns.mapM (Column.readBy read)
  let title ← read view.title
  let caption? ← match view.caption? with
    | some caption => some <$> read caption
    | none => pure none
  return ⟨title, columns, caption?⟩

/-- A table with other texts in place of its own. -/
def map (change : List CodePoint → List CodePoint) (view : View) : View where
  title := change view.title
  columns := view.columns.map fun column => ⟨change column.head, column.cells.map change⟩
  caption? := view.caption?.map change

end View

end Schemagram.Screen
