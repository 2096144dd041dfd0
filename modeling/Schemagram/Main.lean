import Schemagram.Command.Arguments
import Schemagram.Command.Run
import Schemagram.Screen.Console
import Std.Time.Format

/-!
# The command line

Looks up what is around a command, runs it, and prints and writes what it leads to.
-/

namespace Schemagram

/-- The words of a system for a fault, which it numbers. -/
def faultText (location : Location) (fault : IO.Error) : String :=
  let numbered (code : UInt32) (details : String) : String :=
    "[Errno " ++ toString code ++ "] " ++ details ++ ": " ++ Text.quote location.text
  match fault with
  | .noFileOrDirectory _ _ _ => numbered 2 "No such file or directory"
  | .permissionDenied _ code details => numbered code details
  | .inappropriateType _ code details => numbered code details
  | .resourceExhausted _ code details => numbered code details
  | other => toString other

/-- The bytes of the file at a location, and whether there is one.  What may not be read is taken
for a file. -/
def Location.look (location : Location) : IO (Bool × Except String (List UInt8)) := do
  try
    let bytes ← IO.FS.readBinFile location.text
    return (true, .ok bytes.toList)
  catch
    | .permissionDenied file code details =>
      return (true, .error (faultText location (.permissionDenied file code details)))
    | fault => return (false, .error (faultText location fault))

/-- Writes a file that has been opened.  How much of it is there after a fault is not known. -/
def Location.fill (location : Location) (handle : IO.FS.Handle) (bytes : List UInt8) :
    IO Writing := do
  try
    handle.write ⟨bytes.toArray⟩
    handle.flush
    return .done
  catch fault =>
    return .cut (faultText location fault) 0

/-- Opens a file at a location and writes it. -/
def Location.writeBytes (location : Location) (bytes : List UInt8) : IO Writing := do
  try
    location.fill (← IO.FS.Handle.mk location.text .write) bytes
  catch fault =>
    return .refused (faultText location fault)

/-- Reads a stream to its end. -/
partial def readStream (stream : IO.FS.Stream) (found : ByteArray) : IO ByteArray := do
  let more ← stream.read 65536
  if more.isEmpty then return found else readStream stream (found ++ more)

/-- The locations that a command reads. -/
def Command.locations : Command → List Location
  | .parse schema _ _ _ => [schema]
  | .dialect schema => [schema]
  | .diagram schema layout? _ => schema :: layout?.toList
  | .inspect document => [document]

/-- The columns of a console of which nothing else is known. -/
def usualColumns : Nat := 80

/-- What is around a command when it starts.  Of writing it is taken that it is done. -/
def Command.look (command : Command) : IO Command.Surroundings := do
  let found ← command.locations.mapM fun location => return (location, ← location.look)
  let at? (location : Location) := (found.find? (·.1 = location)).map Prod.snd
  let input ← if command.locations.head? = some .input then readStream (← IO.getStdin) .empty else
    pure .empty
  let columns := ((← IO.getEnv "COLUMNS").bind String.toNat?).getD usualColumns
  let now ← Std.Time.PlainDateTime.now
  return {
    files := {
      isFile := fun location => .ok ((at? location).any Prod.fst)
      read := fun location => ((at? location).map Prod.snd).getD (.error location.text)
      write := fun _ _ => .done }
    input := input.toList
    limit? := Decimal.usualLimit
    screen := Screen.console columns ("[" ++ now.format "MM/dd/uu HH:mm:ss" ++ "]") }

/-- Runs a command, and once more behind what it writes, as that turns out. -/
def Invocation.perform (invocation : Invocation) : IO Command.Outcome := do
  let surroundings ← invocation.command.look
  let outcome := invocation.run surroundings
  match outcome.written? with
  | none => return outcome
  | some (location, bytes) =>
    let writing ← location.writeBytes bytes
    return invocation.run
      { surroundings with files := { surroundings.files with write := fun _ _ => writing } }

end Schemagram

open Schemagram in
/-- Runs the command that the arguments ask for. -/
def main (arguments : List String) : IO UInt32 := do
  match Command.ofArguments arguments with
  | .error fault =>
    IO.eprintln fault.message
    return 1
  | .ok invocation =>
    let outcome ← invocation.perform
    IO.print (String.ofList outcome.output)
    IO.eprint (String.ofList outcome.messages)
    if let some crash := outcome.crash? then IO.eprintln crash.message
    return outcome.exit.toUInt32
