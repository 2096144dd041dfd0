import Schemagram.Files.Location

/-!
# Files of a system

What a system answers when it is asked for a file or to write one.  It may refuse anything, for
reasons of its own, and it says why.  It may also open a file for writing and then break off, so
that the file holds the beginning of what it was to hold.
-/

namespace Schemagram

/-- What becomes of the writing of a file. -/
inductive Writing where
  | done
  /-- The file has not been opened. -/
  | refused (fault : String)
  /-- The file has been opened and emptied, and holds some of the bytes that it was to hold. -/
  | cut (fault : String) (kept : Nat)
  deriving DecidableEq, Repr

/-- The answers of a system. -/
structure Files where
  isFile : Location → Except String Bool
  read : Location → Except String (List UInt8)
  write : Location → List UInt8 → Writing

end Schemagram
