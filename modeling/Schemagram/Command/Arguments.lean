import Schemagram.Command.Basic
import Schemagram.Command.Number

/-!
# Command lines

The arguments after the name of a command give values to its parameters: by name, as `--name value`
or `--name=value`, or by position.  A flag is set by its name alone and taken back by `--no-name`.
Behind `--` every argument is given by position.

Of several faults the one that is found first counts.  Options are read first, from the left to the
right; then positions are filled; then the parameters are looked at in their order, for a value that
is missing or no choice; what is left over comes last.
-/

namespace Schemagram.Command

/-- Why arguments make no command. -/
inductive UsageFault where
  | unknownCommand
  | unknownOption
  | missingArgument
  | repeatedArgument
  | badChoice
  | misplacedArgument
  | unusedArgument
  deriving DecidableEq, Repr

def UsageFault.message : UsageFault → String
  | .unknownCommand => "Unknown command"
  | .unknownOption => "Unknown option"
  | .missingArgument => "Missing argument"
  | .repeatedArgument => "Argument given twice"
  | .badChoice => "Value out of choice"
  | .misplacedArgument => "Argument out of order"
  | .unusedArgument => "Unused argument"

structure Parameter where
  name : String
  isFlag : Bool
  isPositional : Bool

/-- A parameter with a value that may be given by position. -/
def Parameter.positional (name : String) : Parameter := ⟨name, false, true⟩

/-- A parameter with a value that is given by name only. -/
def Parameter.named (name : String) : Parameter := ⟨name, false, false⟩

def Parameter.flag (name : String) : Parameter := ⟨name, true, false⟩

/-- What a parameter is set to. -/
inductive Setting where
  | word (text : String)
  | flag (isSet : Bool)

/-- What arguments give to a parameter. -/
structure Given where
  name : String
  setting : Setting

/-! ### By name -/

/-- Whether an argument has the form of an option: a minus in front, but no negative number. -/
def isOptionLike (argument : String) : Bool :=
  argument.toList.head? = some '-' && !isNumber argument

/-- A name as it is compared: an underscore is as good as a minus. -/
def spelling (name : List Char) : List Char := name.map fun char => if char = '_' then '-' else char

/-- What an option names. -/
structure Named where
  parameter : Parameter
  isNegated : Bool
  word? : Option String

/-- What an option names, if it is one of these parameters. -/
def option? (parameters : List Parameter) (argument : String) : Option Named := do
  let text := argument.toList
  let name := text.takeWhile (· ≠ '=')
  let word? := ((text.dropWhile (· ≠ '=')).tail?).map String.ofList
  let names (beginning : String) (parameter : Parameter) : Bool :=
    spelling name = spelling (beginning ++ parameter.name).toList
  if name.head? = some '-' then
    match parameters.find? (names "--") with
    | some parameter => some ⟨parameter, false, word?⟩
    | none =>
      let parameter ← parameters.find? fun parameter => parameter.isFlag && names "--no-" parameter
      some ⟨parameter, true, word?⟩
  else none

/-- The words for a flag that is set or not set. -/
def flagWord? (word : String) : Option Bool :=
  let small := String.ofList (Text.lower word.toList)
  if ["yes", "y", "1", "true", "t"].contains small then some true
  else if ["no", "n", "0", "false", "f"].contains small then some false
  else none

/-- The setting of a flag by its name, which may say with a word whether what the name says
holds. -/
def flagSetting (named : Named) : Except UsageFault Setting :=
  match named.word? with
  | none => .ok (.flag !named.isNegated)
  | some word =>
    match flagWord? word with
    | some holds => .ok (.flag (holds != named.isNegated))
    | none => .error .badChoice

/-- What is given with one more setting, each parameter at most once. -/
def given (parameter : Parameter) (setting : Setting) (before : List Given) :
    Except UsageFault (List Given) :=
  if before.any (·.name = parameter.name) then .error .repeatedArgument
  else .ok (before ++ [⟨parameter.name, setting⟩])

/-- What is given by name after what was given before, and the other arguments. -/
def byName (parameters : List Parameter) :
    List Given → List String → Except UsageFault (List Given × List String)
  | before, [] => .ok (before, [])
  | before, argument :: rest =>
    match option? parameters argument with
    | none => do
      let (found, others) ← byName parameters before rest
      return (found, argument :: others)
    | some named =>
      if named.parameter.isFlag then do
        byName parameters (← given named.parameter (← flagSetting named) before) rest
      else
        match named.word?, rest with
        | some word, rest => do
          byName parameters (← given named.parameter (.word word) before) rest
        | none, [] => .error .missingArgument
        | none, word :: rest =>
          if isOptionLike word then .error .missingArgument
          else do byName parameters (← given named.parameter (.word word) before) rest

/-! ### By position -/

/-- An argument that may be given by position. -/
structure Place where
  text : String
  /-- Whether the argument stands behind `--`, so that it is never the name of an option. -/
  isPlain : Bool

/-- What is given by position to the parameters in turn, and the arguments that are left.  Behind a
parameter that was given by name (`isPassed` tells that there was one) no position counts any
more. -/
def byPosition (named : List Given) (isPassed : Bool) :
    List Parameter → List Place → Except UsageFault (List Given × List Place)
  | [], places => .ok ([], places)
  | _ :: _, [] => .ok ([], [])
  | parameter :: parameters, place :: places =>
    if named.any (·.name = parameter.name) then byPosition named true parameters (place :: places)
    else if isPassed then
      .error (if place.isPlain ||
        isOptionLike place.text then .unknownOption else .misplacedArgument)
    else if !place.isPlain && isOptionLike place.text then .error .unknownOption
    else do
      let (more, left) ← byPosition named isPassed parameters places
      return (⟨parameter.name, .word place.text⟩ :: more, left)

/-- All that is given, and the arguments that are left. -/
def allGiven (parameters : List Parameter) (arguments : List String) :
    Except UsageFault (List Given × List Place) := do
  let before := arguments.takeWhile (· ≠ "--")
  let behind := (arguments.dropWhile (· ≠ "--")).drop 1
  let (named, others) ← byName parameters [] before
  let (positional, left) ← byPosition named false (parameters.filter Parameter.isPositional)
    (others.map (⟨·, false⟩) ++ behind.map (⟨·, true⟩))
  return (named ++ positional, left)

/-- Fails if arguments are left. -/
def noneLeft (left : List Place) : Except UsageFault Unit :=
  if left.isEmpty then .ok ()
  else if left.any (isOptionLike ·.text) then .error .unknownOption
  else .error .unusedArgument

/-! ### Values -/

/-- The word that a parameter is given. -/
def word? (given : List Given) (name : String) : Option String :=
  match given.find? (·.name = name) with
  | some ⟨_, .word text⟩ => some text
  | _ => none

/-- One of several choices, or the usual one if none is given. -/
def choice {Value : Type} (given : List Given) (name : String) (usual : Value)
    (choices : List (String × Value)) : Except UsageFault Value :=
  match word? given name with
  | none => .ok usual
  | some word =>
    match choices.find? (·.1 = word) with
    | some (_, value) => .ok value
    | none => .error .badChoice

def isSet (given : List Given) (name : String) : Bool :=
  match given.find? (·.name = name) with
  | some ⟨_, .flag isSet⟩ => isSet
  | _ => false

/-- The location that a parameter must be given. -/
def requiredLocation (given : List Given) (name : String) : Except UsageFault Location :=
  match word? given name with
  | some text => .ok (.ofString text)
  | none => .error .missingArgument

/-- The location that a parameter may be given. -/
def location? (given : List Given) (name : String) : Option Location :=
  (word? given name).map .ofString

/-! ### Commands -/

def formats : List (String × Format) := [("table", .table), ("json", .json)]

def dialects : List (String × Option Dialect) :=
  ("auto", none) :: [Dialect.sql, .dbml, .shorthand].map fun dialect => (dialect.name, some dialect)

/-- The invocation of `parse`. -/
def parseInvocation (arguments : List String) : Except UsageFault Invocation := do
  let (given, left) ← allGiven [.positional "schema", .positional "fmt", .named "dialect",
    .flag "strict",
    .flag "verbose"] arguments
  let schema ← requiredLocation given "schema"
  let format ← choice given "fmt" .table formats
  let dialect? ← choice given "dialect" none dialects
  noneLeft left
  return ⟨.parse schema format dialect? (isSet given "strict"), isSet given "verbose"⟩

/-- The invocation of `dialect`. -/
def dialectInvocation (arguments : List String) : Except UsageFault Invocation := do
  let (given, left) ← allGiven [.positional "schema", .flag "verbose"] arguments
  let schema ← requiredLocation given "schema"
  noneLeft left
  return ⟨.dialect schema, isSet given "verbose"⟩

/-- The invocation of `diagram`. -/
def diagramInvocation (arguments : List String) : Except UsageFault Invocation := do
  let (given, left) ← allGiven [.positional "schema", .named "layout", .named "output",
    .flag "verbose"]
    arguments
  let schema ← requiredLocation given "schema"
  noneLeft left
  return ⟨.diagram schema (location? given "layout") (location? given "output"),
    isSet given "verbose"⟩

/-- The invocation of `inspect`. -/
def inspectInvocation (arguments : List String) : Except UsageFault Invocation := do
  let (given, left) ← allGiven [.positional "document", .flag "verbose"] arguments
  let document ← requiredLocation given "document"
  noneLeft left
  return ⟨.inspect document, isSet given "verbose"⟩

/-- The invocation that a command line asks for. -/
def ofArguments : List String → Except UsageFault Invocation
  | "parse" :: arguments => parseInvocation arguments
  | "dialect" :: arguments => dialectInvocation arguments
  | "diagram" :: arguments => diagramInvocation arguments
  | "inspect" :: arguments => inspectInvocation arguments
  | _ => .error .unknownCommand

end Schemagram.Command
