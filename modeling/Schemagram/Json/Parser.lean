import Schemagram.Json.Limit
import Schemagram.Text.Hex

/-!
# Reading JSON

A text is read as one value with white space around it.  Beside the numbers of the notation the
words `NaN`, `Infinity` and `-Infinity` are values.  Escapes that name the two halves of a surrogate
pair one after the other make one code point.  Of several members with one key the last gives the
value and the first the place.

A fault is reported with the reason and the rest of the text from which on it shows; its offset,
line and column follow from the length of that rest.  An integer with more digits than a limit
allows stops the reading at its place, too, although nothing is wrong with the notation there.
-/

namespace Schemagram.Json

open Text (CodePoint hexValue?)

/-- Why the reading of a text stops. -/
inductive Reason where
  | expectedValue
  | expectedName
  | expectedColon
  | expectedComma
  | unterminatedString
  | controlCharacter
  | invalidEscape
  | invalidUnicodeEscape
  | extraData
  | byteOrderMark
  | tooManyDigits (excess : Decimal.Excess)
  deriving DecidableEq, Repr

def Reason.message : Reason → String
  | .expectedValue => "Expecting value"
  | .expectedName => "Expecting property name enclosed in double quotes"
  | .expectedColon => "Expecting ':' delimiter"
  | .expectedComma => "Expecting ',' delimiter"
  | .unterminatedString => "Unterminated string starting at"
  | .controlCharacter => "Invalid control character at"
  | .invalidEscape => "Invalid \\escape"
  | .invalidUnicodeEscape => "Invalid \\uXXXX escape"
  | .extraData => "Extra data"
  | .byteOrderMark => "Unexpected UTF-8 BOM (decode using utf-8-sig)"
  | .tooManyDigits excess => excess.message

/-- The excess of digits that stops the reading, if it is that. -/
def Reason.excess? : Reason → Option Decimal.Excess
  | .tooManyDigits excess => some excess
  | _ => none

/-- A reason and the text from the place of the fault on. -/
structure Fault where
  reason : Reason
  rest : List Char
  deriving DecidableEq, Repr

/-- What a reading function returns: a part and the text behind it. -/
abbrev Read := StateT (List Char) (Except Fault)

/-- White space between the parts of a value. -/
def isBlank (char : Char) : Bool := char = ' ' || char = '\t' || char = '\n' || char = '\r'

/-- The text behind white space. -/
def afterBlanks (text : List Char) : List Char := text.dropWhile isBlank

/-! ### Strings -/

/-- The code unit of four hexadecimal digits. -/
def unit? (first second third fourth : Char) : Option CodePoint := do
  let first ← hexValue? first
  let second ← hexValue? second
  let third ← hexValue? third
  let fourth ← hexValue? fourth
  let unit := ((first * 16 + second) * 16 + third) * 16 + fourth
  if small : unit < 0x110000 then some ⟨unit, small⟩ else none

/-- What the letter after a backslash stands for. -/
def escaped? (letter : Char) : Option Char :=
  if letter = '"' || letter = '\\' || letter = '/' then some letter
  else if letter = 'b' then some '\x08'
  else if letter = 'f' then some '\x0c'
  else if letter = 'n' then some '\n'
  else if letter = 'r' then some '\r'
  else if letter = 't' then some '\t'
  else none

/-- Reads the inside of a string and its closing quote.  Escapes that name a surrogate are not
paired yet; `opening` is the text from the opening quote on. -/
def units (opening : List Char) : List Char → Except Fault (List CodePoint × List Char)
  | [] => .error ⟨.unterminatedString, opening⟩
  | '"' :: rest => .ok ([], rest)
  | '\\' :: rest =>
    match rest with
    | [] => .error ⟨.unterminatedString, opening⟩
    | 'u' :: first :: second :: third :: fourth :: next :: rest =>
      match unit? first second third fourth with
      | none =>
        .error ⟨.invalidUnicodeEscape, 'u' :: first :: second :: third :: fourth :: next :: rest⟩
      | some unit =>
        (units opening (next :: rest)).map fun (more, after) => (unit :: more, after)
    | 'u' :: rest => .error ⟨.invalidUnicodeEscape, 'u' :: rest⟩
    | letter :: rest =>
      match escaped? letter with
      | none => .error ⟨.invalidEscape, '\\' :: letter :: rest⟩
      | some char =>
        (units opening rest).map fun (more, after) => (CodePoint.ofChar char :: more, after)
  | char :: rest =>
    if char.toNat < 0x20 then .error ⟨.controlCharacter, char :: rest⟩
    else (units opening rest).map fun (more, after) => (CodePoint.ofChar char :: more, after)

/-- The code point of a surrogate pair. -/
def pair? (high low : CodePoint) : Option CodePoint :=
  if inside : (0xD800 ≤ high.val ∧ high.val ≤ 0xDBFF) ∧ 0xDC00 ≤ low.val ∧ low.val ≤ 0xDFFF then
    some ⟨0x10000 + (high.val - 0xD800) * 0x400 + (low.val - 0xDC00), by omega⟩
  else none

/-- Makes one code point of every two surrogates that form a pair. -/
def joinPairs : List CodePoint → List CodePoint
  | high :: low :: rest =>
    match pair? high low with
    | some point => point :: joinPairs rest
    | none => high :: joinPairs (low :: rest)
  | points => points

/-- Reads a string behind its opening quote. -/
def readString : Read (List CodePoint) := fun rest =>
  (units ('"' :: rest) rest).map fun (points, after) => (joinPairs points, after)

/-! ### Numbers -/

/-- A minus sign, if there is one. -/
def takeSign : List Char → Bool × List Char
  | '-' :: rest => (true, rest)
  | text => (false, text)

/-- The whole part of a number: a zero, or digits of which the first is no zero. -/
def whole? : List Char → Option (List Char × List Char)
  | [] => none
  | char :: rest =>
    if char = '0' then some ([char], rest)
    else if Decimal.isDigit char then
      some (char :: rest.takeWhile Decimal.isDigit, rest.dropWhile Decimal.isDigit)
    else none

/-- The digits of a fraction, if there is one. -/
def fraction? : List Char → Option (List Char × List Char)
  | '.' :: rest =>
    match rest.takeWhile Decimal.isDigit with
    | [] => none
    | digits => some (digits, rest.dropWhile Decimal.isDigit)
  | _ => none

/-- The exponent of a number, if there is one. -/
def exponent? : List Char → Option (Int × List Char)
  | [] => none
  | char :: rest =>
    if char = 'e' || char = 'E' then
      let (isNegative, rest) := match rest with
        | '-' :: rest => (true, rest)
        | '+' :: rest => (false, rest)
        | _ => (false, rest)
      match rest.takeWhile Decimal.isDigit with
      | [] => none
      | digits =>
        let size : Int := Decimal.ofDigits digits
        some (if isNegative then -size else size, rest.dropWhile Decimal.isDigit)
    else none

/-- Reads a number: an integer unless it has a fraction or an exponent. -/
def number? (text : List Char) : Option (Json × List Char) := do
  let (isNegative, afterSign) := takeSign text
  let (whole, afterWhole) ← whole? afterSign
  let (fraction, afterFraction) := (fraction? afterWhole).getD ([], afterWhole)
  match exponent? afterFraction with
  | some (exponent, rest) =>
    return (.double (.ofDecimal isNegative (Decimal.ofDigits (whole ++ fraction))
      (exponent - fraction.length)), rest)
  | none =>
    if fraction.isEmpty then
      let value : Int := Decimal.ofDigits whole
      return (.integer (if isNegative then -value else value), afterFraction)
    else
      return (.double (.ofDecimal isNegative (Decimal.ofDigits (whole ++ fraction))
        (-fraction.length)), afterFraction)

/-! ### Values -/

/-- The values that are written as words. -/
def words : List (String × Json) := [
  ("null", .null), ("true", .bool true), ("false", .bool false), ("NaN", .double .nan),
  ("Infinity", .double (.infinity false)), ("-Infinity", .double (.infinity true))]

/-- Reads a value that is written as a word. -/
def word? (text : List Char) : Option (Json × List Char) :=
  words.findSome? fun (word, value) =>
    if word.toList.isPrefixOf text then some (value, text.drop word.length) else none

/-- Reads a value that is no string and has no parts. -/
def scalar (limit? : Option Nat) : Read Json := fun text =>
  match word? text with
  | some read => .ok read
  | none =>
    match number? text with
    | some (json, rest) =>
      match json.readExcess? limit? with
      | some excess => .error ⟨.tooManyDigits excess, text⟩
      | none => .ok (json, rest)
    | none => .error ⟨.expectedValue, text⟩

/-- Reads the key of a member and the colon behind it. -/
def memberKey (text : List Char) : Except Fault (List CodePoint × List Char) :=
  match text with
  | '"' :: rest => do
    let (key, rest) ← readString rest
    match afterBlanks rest with
    | ':' :: rest => .ok (key, afterBlanks rest)
    | rest => .error ⟨.expectedColon, rest⟩
  | _ => .error ⟨.expectedName, text⟩

section

variable (limit? : Option Nat)

mutual

/-- Reads a value.  Every call takes one of the steps; a text allows two for each of its
characters. -/
def value : (steps : Nat) → Read Json
  | 0, text => .error ⟨.expectedValue, text⟩
  | steps + 1, text =>
    match text with
    | '"' :: rest => (readString rest).map fun (text, rest) => (.string text, rest)
    | '[' :: rest =>
      match afterBlanks rest with
      | ']' :: rest => .ok (.array [], rest)
      | rest => (items steps rest).map fun (items, rest) => (.array items, rest)
    | '\x7b' :: rest =>
      match afterBlanks rest with
      | '\x7d' :: rest => .ok (.object [], rest)
      | rest =>
        (members steps rest).map fun (members, rest) => (.object (Keyed.ofPairs members), rest)
    | _ => scalar limit? text

/-- Reads the items of an array and its closing bracket. -/
def items : (steps : Nat) → Read (List Json)
  | 0, text => .error ⟨.expectedValue, text⟩
  | steps + 1, text =>
    match value steps text with
    | .error fault => .error fault
    | .ok (first, rest) =>
      match afterBlanks rest with
      | ']' :: rest => .ok ([first], rest)
      | ',' :: rest =>
        (items steps (afterBlanks rest)).map fun (more, rest) => (first :: more, rest)
      | rest => .error ⟨.expectedComma, rest⟩

/-- Reads the members of an object and its closing brace. -/
def members : (steps : Nat) → Read (List (List CodePoint × Json))
  | 0, text => .error ⟨.expectedName, text⟩
  | steps + 1, text =>
    match memberKey text with
    | .error fault => .error fault
    | .ok (key, rest) =>
      match value steps rest with
      | .error fault => .error fault
      | .ok (first, rest) =>
        match afterBlanks rest with
        | '\x7d' :: rest => .ok ([(key, first)], rest)
        | ',' :: rest =>
          (members steps (afterBlanks rest)).map fun (more, rest) => ((key, first) :: more, rest)
        | rest => .error ⟨.expectedComma, rest⟩

end

end

/-- Reads a text as one value. -/
def parse (limit? : Option Nat) (text : List Char) : Except Fault Json :=
  if text.head? = some '\ufeff' then .error ⟨.byteOrderMark, text⟩
  else
    match value limit? (2 * text.length + 2) (afterBlanks text) with
    | .error fault => .error fault
    | .ok (value, rest) =>
      match afterBlanks rest with
      | [] => .ok value
      | rest => .error ⟨.extraData, rest⟩

/-! ### Reports -/

/-- The offset of a fault in the text that was read. -/
def Fault.offset (fault : Fault) (text : List Char) : Nat := text.length - fault.rest.length

/-- The fault in words, with its line, its column and its offset. -/
def Fault.message (fault : Fault) (text : List Char) : String :=
  let before := text.take (fault.offset text)
  let line := before.count '\n' + 1
  let column := (before.reverse.takeWhile (· ≠ '\n')).length + 1
  fault.reason.message ++ ": line " ++ Decimal.text line ++ " column " ++ Decimal.text column ++
    " (char " ++ Decimal.text (fault.offset text) ++ ")"

end Schemagram.Json
