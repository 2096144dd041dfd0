import Schemagram.Files.Folder

/-!
# What writing a file changes

A file that is written stands at the place to which its location leads.  All other places hold what
they held, and who looks for the location afterwards finds what was written: writing makes no folder
a file and no file a folder, so the way to the place stays the same.
-/

namespace Schemagram.Folder

variable {folder : Folder} {place : List String} {file : Location.File} {bytes : List UInt8}

end Schemagram.Folder
