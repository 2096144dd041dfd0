import Schemagram.Text.Letter

/-!
# Constraint markers

The words in column options that make a column a primary key or not nullable.  A marker counts
wherever it occurs in the options, also inside another word, and in any case.
-/

namespace Schemagram.Markers

def primaryKey : List String := ["primary key", "pk", "[pk]"]

/-- The markers of a column that is not nullable. -/
def notNull : List String := ["not null", "nn", "[nn]"]

/-- Whether a text holds one of the markers, in any case. -/
def occurIn (markers : List String) (text : List Char) : Bool :=
  markers.any fun marker => Text.contains marker.toList (Text.lower text)

/-- Whether a text marks a primary key. -/
def isPrimaryKey (text : List Char) : Bool := occurIn primaryKey text

/-- Whether a text marks a column as not nullable. -/
def isNotNull (text : List Char) : Bool := occurIn notNull text

end Schemagram.Markers
