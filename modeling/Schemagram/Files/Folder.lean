import Schemagram.Files.System

/-!
# Folders

A system of plain files: there are the files with the names on the way to them from the root, and
the folders that are on these ways.  One folder is the one from which locations without a root are
looked up.
-/

namespace Schemagram

/-- The place from which locations are looked up, and the files, each with its place. -/
structure Folder where
  here : List String
  files : List (List String × Location.File)
  deriving DecidableEq, Repr

namespace Folder

def file? (folder : Folder) (place : List String) : Option Location.File :=
  (folder.files.find? (·.1 = place)).map Prod.snd

/-- Whether a place is on the way to a file, or to the place from which locations are looked up. -/
def isFolder (folder : Folder) (place : List String) : Bool :=
  place.isPrefixOf folder.here || folder.files.any fun (other, _) => place.isPrefixOf other &&
    other ≠ place

/-- Follows names from a folder, to what stands at the end and the place that this is.  Above the
root there is the root. -/
def walk (folder : Folder) (place : List String) : List String → Location.Standing × List String
  | [] => (.folder, place)
  | ".." :: more => folder.walk place.dropLast more
  | name :: more =>
    let next := place ++ [name]
    match folder.file? next with
    | some file => (if more.isEmpty then .file file else .blocked, next)
    | none =>
      if folder.isFolder next then folder.walk next more
      else (if more.isEmpty then .free else .missing, next)

/-- What stands at a location, and the place that this is. -/
def find (folder : Folder) (location : Location) : Location.Standing × List String :=
  folder.walk (if location.root.isEmpty then folder.here else []) location.parts

def standing (folder : Folder) (location : Location) : Location.Standing := (folder.find location).1

def put (folder : Folder) (place : List String) (file : Location.File) : Folder :=
  { folder with files := folder.files.filter (·.1 ≠ place) ++ [(place, file)] }

/-- The folder after a file has been written.  A file that was there keeps what may be done with
it. -/
def write (folder : Folder) (location : Location) (bytes : List UInt8) : Folder :=
  let place := (folder.find location).2
  match folder.file? place with
  | some file => folder.put place { file with bytes }
  | none => folder.put place ⟨bytes, true, true⟩

/-- The system of the files of a folder. -/
def system (folder : Folder) : Files where
  isFile location :=
    match folder.standing location with
    | .file _ => .ok true
    | _ => .ok false
  read location := (folder.standing location).read.mapError (·.message location)
  write location _ :=
    match (folder.standing location).writeFault? with
    | some fault => .refused (fault.message location)
    | none => .done

/-- The files that another folder does not have in the same form. -/
def changes (before after : Folder) : List (List String × List UInt8) :=
  (after.files.filter fun (place, file) => before.file? place ≠ some file).map fun (place, file) =>
    (place, file.bytes)

end Folder

end Schemagram
