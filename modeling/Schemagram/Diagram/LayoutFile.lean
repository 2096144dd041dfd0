import Schemagram.Diagram.Basic
import Schemagram.Toml.Document
import Schemagram.Toml.Limit

/-!
# Layout files

A layout file is a TOML document whose `layout` table sets some of the four numbers of a layout; the
others are those of the standard layout.

Of several faults the first of these is reported: `layout` is no table, there are keys that are no
settings, a setting is no integer or too small.  Keys are listed in order and settings are looked at
in a fixed order, so the order of the lines in a table does not matter.
-/

namespace Schemagram.Layout

/-- A number of a layout that a file may set. -/
inductive Setting where
  | margin
  | xSpacing
  | ySpacing
  | maxPerRow
  deriving DecidableEq, Repr

namespace Setting

/-- The settings in the order in which they are looked at. -/
def all : List Setting := [margin, xSpacing, ySpacing, maxPerRow]

def key : Setting → String
  | margin => "margin"
  | xSpacing => "x_spacing"
  | ySpacing => "y_spacing"
  | maxPerRow => "max_per_row"

/-- The smallest number that a setting allows: only the margin may be zero. -/
def least : Setting → Int
  | margin => 0
  | _ => 1

/-- The number of a setting in a layout. -/
def of (layout : Layout) : Setting → Int
  | margin => layout.margin
  | xSpacing => layout.xSpacing
  | ySpacing => layout.ySpacing
  | maxPerRow => layout.maxPerRow

end Setting

/-- Why a document sets no layout. -/
inductive FileFault where
  | notATable (value : Toml)
  | unknownSettings (keys : List String)
  | badSetting (setting : Setting) (value : Toml)

/-- The value that the words for a fault show, if they show one. -/
def FileFault.value? : FileFault → Option Toml
  | .notATable value => some value
  | .unknownSettings _ => none
  | .badSetting _ value => some value

def FileFault.words : FileFault → String
  | .notATable value => "Layout section must be a table, got " ++ String.ofList value.shown
  | .unknownSettings keys => "Unknown layout setting(s): " ++ String.intercalate ", " keys
  | .badSetting setting value =>
    "Layout setting " ++ setting.key ++ " must be an integer >= " ++
      String.ofList (Decimal.integer setting.least) ++ ", got " ++ String.ofList value.shown

/-- The fault in words, unless they show a value with an integer beyond the limit. -/
def FileFault.message (limit? : Option Nat) (fault : FileFault) : String :=
  match Decimal.shownExcess? limit? (fault.value?.all (·.fits limit?)) with
  | some excess => excess.message
  | none => fault.words

/-- The number that the members of the `layout` table give a setting. -/
def Setting.read (members : Toml.Members) (setting : Setting) : Except FileFault Int :=
  match Keyed.get? setting.key members with
  | none => .ok (setting.of standard)
  | some (.integer value) =>
    if setting.least ≤ value then .ok value else .error (.badSetting setting (.integer value))
  | some value => .error (.badSetting setting value)

/-- The keys that are no settings, in order. -/
def unknownKeys (members : Toml.Members) : List String :=
  ((Keyed.keys members).filter fun key => !(Setting.all.map Setting.key).contains key).mergeSort

/-- The layout that the members of the `layout` table set. -/
def ofMembers (members : Toml.Members) : Except FileFault Layout := do
  let unknown := unknownKeys members
  unless unknown.isEmpty do throw (.unknownSettings unknown)
  return {
    margin := ← Setting.margin.read members
    xSpacing := ← Setting.xSpacing.read members
    ySpacing := ← Setting.ySpacing.read members
    maxPerRow := ← Setting.maxPerRow.read members }

def ofDocument (document : Toml.Members) : Except FileFault Layout :=
  match Keyed.get? "layout" document with
  | none => .ok standard
  | some (.table members) => ofMembers members
  | some value => .error (.notATable value)

end Schemagram.Layout
