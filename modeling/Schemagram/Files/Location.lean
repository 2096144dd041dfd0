import Schemagram.Text.Piece
import Schemagram.Text.Quoted

/-!
# Locations

Where a file is: the names on the way to it.  A location is written without the parts that lead
nowhere, so that `./a` and `a` are one.

What stands at a location decides what opening it for reading or writing leads to.
-/

namespace Schemagram

/-- A location: slashes if it starts at the root of all files, and the names on the way. -/
structure Location where
  root : String
  parts : List String
  deriving DecidableEq, Repr

namespace Location

/-- The location that a text names.  Two slashes at the beginning are a root of their own. -/
def ofString (text : String) : Location :=
  let slashes := (text.toList.takeWhile (· = '/')).length
  let parts := (Text.splitOn '/' text.toList).filter fun part => part ≠ [] && part ≠ ['.']
  { root := if slashes = 0 then "" else if slashes = 2 then "//" else "/"
    parts := parts.map String.ofList }

def text (location : Location) : String :=
  if location.root.isEmpty && location.parts.isEmpty then "."
  else location.root ++ String.intercalate "/" location.parts

/-- The location that stands for the standard input. -/
def input : Location := ⟨"", ["-"]⟩

/-- A file: its bytes, and what may be done with it. -/
structure File where
  bytes : List UInt8
  isReadable : Bool
  isWritable : Bool
  deriving DecidableEq, Repr

inductive Standing where
  | file (found : File)
  | folder
  /-- Nothing, but there is a folder that it could be in. -/
  | free
  /-- Nothing, and no folder for it. -/
  | missing
  /-- The way leads through a file. -/
  | blocked
  deriving DecidableEq, Repr

/-- Why a location cannot be opened. -/
inductive Fault where
  | notFound
  | notPermitted
  | notAFolder
  | isAFolder
  deriving DecidableEq, Repr

def Fault.message (fault : Fault) (location : Location) : String :=
  let reason := match fault with
    | .notFound => "[Errno 2] No such file or directory: "
    | .notPermitted => "[Errno 13] Permission denied: "
    | .notAFolder => "[Errno 20] Not a directory: "
    | .isAFolder => "[Errno 21] Is a directory: "
  reason ++ Text.quote location.text

/-- Opens what stands at a location for reading. -/
def Standing.read : Standing → Except Fault (List UInt8)
  | .file found => if found.isReadable then .ok found.bytes else .error .notPermitted
  | .folder => .error .isAFolder
  | .free => .error .notFound
  | .missing => .error .notFound
  | .blocked => .error .notAFolder

/-- Why a file cannot be written where something stands, if it cannot. -/
def Standing.writeFault? : Standing → Option Fault
  | .file found => if found.isWritable then none else some .notPermitted
  | .free => none
  | .folder => some .isAFolder
  | .missing => some .notFound
  | .blocked => some .notAFolder

end Location

end Schemagram
