/-!
# Line ends

Texts that end their lines in different ways, brought to line feeds.
-/

namespace Schemagram.Text

/-- Makes one line feed of every carriage return with a line feed behind it. -/
def joinLineEnds : List Char → List Char
  | '\r' :: '\n' :: rest => '\n' :: joinLineEnds rest
  | char :: rest => char :: joinLineEnds rest
  | [] => []

/-- Makes a line feed of every line end: a carriage return, a line feed, or the one before the
other. -/
def plainLineEnds (text : List Char) : List Char :=
  (joinLineEnds text).map fun char => if char = '\r' then '\n' else char

end Schemagram.Text
