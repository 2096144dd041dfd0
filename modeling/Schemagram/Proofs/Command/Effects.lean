import Schemagram.Proofs.Command.Inspection
import Schemagram.Proofs.Files.Writing

/-!
# What a command leaves behind

A command reads first and acts last.  So one that fails has printed nothing and written nothing,
whatever stood in its way, unless the screen is at fault, or the system while it is writing the
file.  One that succeeds has written at most one file, and only if it draws a diagram and is given a
location for it.  The file then holds the diagram of what was read, even if it was read from that
very file.

What breaks off a writing is a disk that is full or fails, and no file that is there.  So among the
files of a folder, whatever they are, all stay as they are when a command fails.
-/

namespace Schemagram

namespace Command

variable {surroundings : Surroundings} {command : Command}

/-- The layout that a command is given, or the standard one. -/
def layoutOf (surroundings : Surroundings) (layout? : Option Location) : Except String Layout :=
  layout?.elim (.ok .standard) (readLayout surroundings)

/-- Where a command is to write. -/
def output? : Command → Option Location
  | .diagram _ _ output? => output?
  | _ => none

/-- What a command draws is the document of the diagram of the text that it reads. -/
inductive Draws (surroundings : Surroundings) : Command → String → Prop where
  | diagram {schema : Location} {layout? output? : Option Location} {text : List Char}
      {layout : Layout} {drawn : Diagram} {document : String}
      (isText : readText surroundings schema = .ok text)
      (isLayout : layoutOf surroundings layout? = .ok layout)
      (isDrawn : Diagram.ofTables (Schema.parse (String.ofList text) none).result
        (String.ofList text) layout = .ok drawn)
      (isDumped : drawn.dumpWithin surroundings.limit? = .ok document) :
      Draws surroundings (.diagram schema layout? output?) document

/-! ### Ends of commands -/

/-- All that a command can lead to. -/
inductive Ends (surroundings : Surroundings) (command : Command) : Outcome → Prop where
  | failed (messages : List Char) (crash? : Option Crash) :
    Ends surroundings command ⟨1, [], messages, none, crash?⟩
  | crashed (output messages : List Char) {crash : Crash} (ofScreen : crash.IsOfScreen) :
      Ends surroundings command ⟨1, output, messages, none, some crash⟩
  | printed (output messages : List Char) (noFile : command.output? = none) :
      Ends surroundings command ⟨0, output, messages, none, none⟩
  | wrote {location : Location} {document : String} (messages : List Char)
      (isOutput : command.output? = some location)
      (draws : Draws surroundings command document)
      (done : surroundings.files.write location document.toUTF8.toList = .done) :
      Ends surroundings command ⟨0, [], messages, some (location, document.toUTF8.toList), none⟩
  | brokeOff {location : Location} {document fault : String} {kept : Nat} (messages : List Char)
      (isOutput : command.output? = some location) (draws : Draws surroundings command document)
      (cut : surroundings.files.write location document.toUTF8.toList = .cut fault kept) :
      Ends surroundings command
        ⟨1, [], messages, some (location, document.toUTF8.toList.take kept), none⟩

/-- The folder after what a command has written is put into it. -/
def Outcome.after (outcome : Outcome) (folder : Folder) : Folder :=
  match outcome.written? with
  | none => folder
  | some (location, bytes) => folder.write location bytes

/-- The files of a folder are around a command. -/
def Surroundings.within (folder : Folder) : Surroundings :=
  ⟨folder.system, [], Decimal.usualLimit, Screen.console 80 ""⟩

end Command

end Schemagram
