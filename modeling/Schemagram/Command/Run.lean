import Schemagram.Command.Basic
import Schemagram.Diagram.LayoutFile
import Schemagram.Diagram.Summary
import Schemagram.Files.System
import Schemagram.Json.Printer
import Schemagram.Schema
import Schemagram.Screen.Renderer
import Schemagram.Strict.Json
import Schemagram.Strict.View
import Schemagram.Table.View
import Schemagram.Text.NewLine
import Schemagram.Text.Utf8

/-!
# Running commands

What a command prints and writes, given what is around it: files, the standard input, a limit on
digits and a screen.  A command that fails says why in a message.  The events on the way are printed
before all messages.

A command may also crash, with a fault that nothing reports.  Pages that have been printed before
remain.
-/

namespace Schemagram.Command

open Text (points)

/-- What is around a command. -/
structure Surroundings where
  files : Files
  /-- The bytes of the standard input. -/
  input : List UInt8
  /-- The limit on the digits of integers, if there is one. -/
  limit? : Option Nat
  screen : Screen.Renderer

/-- A fault that nothing reports. -/
inductive Crash where
  | page (fault : Screen.PageFault)
  | name (fault : Document.NameFault)
  | layout (fault : Layout.Fault)
  | digits (excess : Decimal.Excess)
  | input (fault : Text.Utf8.Fault)
  | file (fault : String)
  deriving DecidableEq, Repr

/-- The fault in words. -/
def Crash.message : Crash → String
  | .page fault => fault.message
  | .name fault => fault.message
  | .layout fault => fault.message
  | .digits excess => excess.message
  | .input fault => fault.message
  | .file fault => fault

/-- What a command leads to: its exit status, what it prints, its messages, the bytes that a file
holds because of it, and the fault if it crashes. -/
structure Outcome where
  exit : Nat
  output : List Char
  messages : List Char
  written? : Option (Location × List UInt8)
  crash? : Option Crash
  deriving DecidableEq, Repr

namespace Outcome

def print (output : List Char) : Outcome := ⟨0, output, [], none, none⟩

def fail (surroundings : Surroundings) (message : String) : Outcome :=
  ⟨1, [], surroundings.screen.message .failure message, none, none⟩

/-- A crash behind some messages. -/
def crash (messages : List Char) (crash : Crash) : Outcome := ⟨1, [], messages, none, some crash⟩

/-- An outcome behind a page. -/
def behind (page : List Char) (outcome : Outcome) : Outcome :=
  { outcome with output := page ++ outcome.output }

/-- An outcome with a message at the end, unless there is a crash before. -/
def before (message : List Char) (outcome : Outcome) : Outcome :=
  match outcome.crash? with
  | none => { outcome with messages := outcome.messages ++ message }
  | some _ => outcome

end Outcome

/-- Prints pages one after the other, up to the first that is not printed. -/
def printPages : List (Except Screen.PageFault (List Char)) → Outcome
  | [] => .print []
  | .ok page :: more => (printPages more).behind page
  | .error fault :: _ => .crash [] (.page fault)

/-! ### Reading -/

/-- Why a text is not read: a message tells, or nothing does. -/
inductive Unread where
  | reported (message : String)
  | crashed (crash : Crash)
  deriving DecidableEq, Repr

def readText (surroundings : Surroundings) (location : Location) : Except Unread (List Char) :=
  if location = .input then
    match Text.Utf8.decode surroundings.input with
    | .error fault => .error (.crashed (.input fault))
    | .ok text => .ok (Text.plainLineEnds text)
  else
    let cannotRead (fault : String) : Unread :=
      .reported ("Cannot read " ++ location.text ++ " (" ++ fault ++ ")")
    match surroundings.files.isFile location with
    | .error fault => .error (.crashed (.file fault))
    | .ok false => .error (.reported ("File does not exist: " ++ location.text))
    | .ok true =>
      match surroundings.files.read location with
      | .error fault => .error (cannotRead fault)
      | .ok bytes =>
        match Text.Utf8.decode bytes with
        | .error fault => .error (cannotRead fault.message)
        | .ok text => .ok (Text.plainLineEnds text)

/-- The words for a fault of a layout file.  What stands there for a text that is no document is
less than a reader of such documents would say. -/
def tomlMessage : Toml.Fault → String
  | .unreadable => "Invalid statement"
  | .tooManyDigits excess => excess.message

/-- The layout at a location, or a message why there is none. -/
def readLayout (surroundings : Surroundings) (location : Location) : Except String Layout := do
  let bytes ← surroundings.files.read location
  let text ← (Text.Utf8.decode bytes).mapError (·.message)
  let document ← (Toml.parse surroundings.limit? text).mapError tomlMessage
  (Layout.ofDocument document).mapError (·.message surroundings.limit?)

/-! ### Commands -/

/-- Prints the tables of a schema. -/
def showTables (surroundings : Surroundings) (format : Format) (tables : List Table) : Outcome :=
  match format with
  | .json => .print (Json.printLine (.array (tables.map Table.toJson)))
  | .table =>
    if tables.isEmpty then printPages [surroundings.screen.linePage (points "No tables found.")]
    else printPages ((tables.flatMap Table.views).map surroundings.screen.tablePage)

/-- Prints the tables of a schema that matches the strict grammar. -/
def showStrictTables (surroundings : Surroundings) (format : Format) (tables : List Strict.Table) :
    Outcome :=
  match format with
  | .json => .print (Json.printLine (.array (tables.map Strict.Table.toJson)))
  | .table => printPages ((tables.map Strict.Table.view).map surroundings.screen.tablePage)

def runParse (surroundings : Surroundings) (format : Format) (dialect? : Option Dialect)
    (isStrict : Bool) (text : String) : Logged Outcome :=
  if isStrict then do
    match ← Strict.parse? text with
    | none => return .fail surroundings "Schema does not match the strict grammar"
    | some tables => return showStrictTables surroundings format tables
  else do
    return showTables surroundings format (← Schema.parse text dialect?)

def runDialect (text : String) : Logged Outcome := do
  let detected ← Dialect.detected text.toList
  return .print (detected.name.toList ++ ['\n'])

/-- Prints a document or writes it to a file, behind other messages. -/
def writeDocument (surroundings : Surroundings) (messages : List Char) (document : String) :
    Option Location → Outcome
  | none => ⟨0, document.toList, messages, none, none⟩
  | some location =>
    let bytes := document.toUTF8.toList
    let failure (fault : String) := surroundings.screen.message .failure
      ("Failed to write output file: " ++ location.text ++ " (" ++ fault ++ ")")
    match surroundings.files.write location bytes with
    | .done =>
      let success := surroundings.screen.message .success ("Written to " ++ location.text)
      ⟨0, [], messages ++ success, some (location, bytes), none⟩
    | .refused fault => ⟨1, [], messages ++ failure fault, none, none⟩
    | .cut fault kept => ⟨1, [], messages ++ failure fault, some (location, bytes.take kept), none⟩

/-- Draws the diagram of some tables, behind other messages. -/
def draw (surroundings : Surroundings) (messages : List Char) (tables : List Table) (text : String)
    (layout : Layout) (output? : Option Location) : Outcome :=
  match Diagram.ofTables tables text layout with
  | .error fault => .crash messages (.layout fault)
  | .ok drawn =>
    match drawn.dumpWithin surroundings.limit? with
    | .error excess => .crash messages (.digits excess)
    | .ok document => writeDocument surroundings messages document output?

def runDiagram (surroundings : Surroundings) (layout : Layout) (output? : Option Location)
    (text : String) : Logged Outcome := do
  let tables ← Schema.parse text none
  let information := surroundings.screen.message .information
  let noTables := if tables.isEmpty then information "No tables found in schema" else []
  let messages := noTables ++ information ("Tables: " ++ Decimal.text tables.length)
  return draw surroundings messages tables text layout output?

def summarize (surroundings : Surroundings) (document : Document) : Outcome :=
  match document.view with
  | .error fault => .crash [] (.name fault)
  | .ok view =>
    let screen := surroundings.screen
    let pages := [screen.tablePage view, screen.linePage document.relationshipsLine,
      screen.linePage document.enumsLine]
    (printPages pages).before (screen.message .success "Diagram document is valid")

/-- A summary of the document of a text. -/
def runInspect (surroundings : Surroundings) (text : List Char) : Logged Outcome := do
  match ← Document.load surroundings.limit? text with
  | .error (.format fault) => return .fail surroundings fault.message
  | .error (.digits excess) => return .crash [] (.digits excess)
  | .ok document => return summarize surroundings document

/-- Goes on with the text at a location. -/
def withText (surroundings : Surroundings) (location : Location)
    (next : List Char → Logged Outcome) : Logged Outcome :=
  match readText surroundings location with
  | .error (.reported message) => return .fail surroundings message
  | .error (.crashed crash) => return .crash [] crash
  | .ok text => next text

/-- What a command leads to, with the events on the way. -/
def run (surroundings : Surroundings) : Command → Logged Outcome
  | .parse schema format dialect? isStrict =>
    if isStrict && dialect?.isSome then
      return .fail surroundings "--strict cannot be combined with --dialect"
    else
      withText surroundings schema fun text =>
        runParse surroundings format dialect? isStrict (String.ofList text)
  | .dialect schema => withText surroundings schema fun text => runDialect (String.ofList text)
  | .diagram schema layout? output? =>
    withText surroundings schema fun text =>
      match layout?.elim (.ok .standard) (readLayout surroundings) with
      | .error message => return .fail surroundings ("Invalid layout configuration: " ++ message)
      | .ok layout => runDiagram surroundings layout output? (String.ofList text)
  | .inspect document => withText surroundings document (runInspect surroundings)

end Command

def Invocation.run (surroundings : Command.Surroundings) (invocation : Invocation) :
    Command.Outcome :=
  let logged := invocation.command.run surroundings
  let records := if invocation.isVerbose then surroundings.screen.records logged.events else []
  { logged.result with messages := records ++ logged.result.messages }

end Schemagram
