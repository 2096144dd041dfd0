import Schemagram.Decimal.Limit
import Schemagram.Scan
import Schemagram.Text.Hex
import Schemagram.Toml.Basic

/-!
# TOML scalars

The values without parts: strings of four kinds, words, moments, integers in four bases, and
doubles.

Where one kind fails the next is tried, but no text is of two kinds: what is left behind a shorter
reading starts with a character that no statement goes on with.

An integer in base ten may have more digits than a limit allows.  Then the reading stops: a scan
that has met such a number finds the excess, and nothing is left for the next scan.
-/

namespace Schemagram.Toml

open Scan

/-- White space within a line. -/
def isBlank (char : Char) : Bool := char = ' ' || char = '\t'

/-- Whether a character may stand in a comment or a string: no control but the tab. -/
def isPlain (char : Char) : Bool := char = '\t' || 0x20 ≤ char.toNat && char.toNat ≠ 0x7F

/-- White space within a line, if there is any. -/
def blanks : Scan Unit := do
  let _ ← run isBlank

/-! ### Strings -/

/-- The character of a hexadecimal escape. -/
def escapedChar? (digits : List Char) : Option Char := do
  let values ← digits.mapM Text.hexValue?
  let point := values.foldl (fun point value => 16 * point + value) 0
  if valid : point.isValidChar then some (Char.ofNatAux point valid) else none

/-- A hexadecimal escape of as many digits. -/
def hexEscape (width : Nat) : Scan Char := fun text => do
  let digits := text.take width
  let char ← if digits.length = width then escapedChar? digits else none
  return (char, text.drop width)

/-- What a letter behind a backslash stands for. -/
def escaped? (letter : Char) : Option Char :=
  if letter = '"' || letter = '\\' then some letter
  else if letter = 'b' then some '\x08'
  else if letter = 'f' then some '\x0c'
  else if letter = 'n' then some '\n'
  else if letter = 'r' then some '\r'
  else if letter = 't' then some '\t'
  else none

def escape : Scan Char := do
  let letter ← one fun _ => true
  if letter = 'u' then hexEscape 4
  else if letter = 'U' then hexEscape 8
  else escaped? letter

/-- A backslash at the end of a line takes away the line end and the white space behind it. -/
def lineEscape : Scan Unit := do
  blanks
  mark '\n'
  let _ ← run fun char => isBlank char || char = '\n'

/-- A piece of a string on one line between double quotes. -/
def piece : Scan (List Char) :=
  (do mark '\\'; return [← escape]) <|>
    (do return [← one fun char => char ≠ '"' && char ≠ '\\' && isPlain char])

/-- A string on one line between double quotes. -/
def basicString : Scan String := do
  mark '"'
  let pieces ← many piece
  mark '"'
  return String.ofList pieces.flatten

/-- A string on one line between single quotes, in which a backslash is a backslash. -/
def literalString : Scan String := do
  mark '\''
  let inside ← run fun char => char ≠ '\'' && isPlain char
  mark '\''
  return String.ofList inside

/-- Fails where a text stands, and takes nothing elsewhere. -/
def absent (text : String) : Scan Unit := fun rest =>
  if text.toList.isPrefixOf rest then none else some ((), rest)

/-- A piece of a string over several lines between threefold double quotes. -/
def longPiece : Scan (List Char) :=
  (do mark '\\'; lineEscape; return []) <|>
  (do mark '\\'; return [← escape]) <|> do
    absent "\"\"\""
    return [← one fun char => char ≠ '\\' && (isPlain char || char = '\n')]

/-- A piece of a string over several lines between threefold single quotes. -/
def longLiteralPiece : Scan (List Char) := do
  absent "'''"
  return [← one fun char => isPlain char || char = '\n']

/-- A string over several lines.  A line end behind the opening quotes does not count, and before
the closing ones the quote may stand twice more. -/
def longString (quote : Char) (piece : Scan (List Char)) : Scan String := do
  literal (· = ·) [quote, quote, quote]
  optionally (mark '\n')
  let pieces ← many piece
  literal (· = ·) [quote, quote, quote]
  let more ← (do mark quote; mark quote; return [quote, quote]) <|>
    (do mark quote; return [quote]) <|>
    pure []
  return String.ofList (pieces.flatten ++ more)

def quotedText : Scan String :=
  longString '"' longPiece <|> longString '\'' longLiteralPiece <|> basicString <|> literalString

/-! ### Numbers -/

/-- A number in the base that two characters at its beginning name. -/
def basedNumber (start : String) (base : Nat) : Scan Int := do
  exactly start
  let digits ← digitGroups fun char => (Text.hexValue? char).any (· < base)
  return ((digits.filterMap Text.hexValue?).foldl (fun value digit => base * value + digit) 0 : Nat)

/-- A sign, if there is one: whether the number is negative. -/
def sign : Scan Bool := (do mark '-'; return true) <|> (do mark '+'; return false) <|> pure false

/-- The whole part of a number: a zero, or digits of which the first is no zero. -/
def whole : Scan (List Char) :=
  (do return [← one (· = '0')]) <|> digitGroups Decimal.isDigit

def exponent : Scan Int := do
  let _ ← one fun char => char = 'e' || char = 'E'
  let isNegative ← sign
  let size : Int := Decimal.ofDigits (← digitGroups Decimal.isDigit)
  return if isNegative then -size else size

/-- Stops at a number that has too many digits.  Nothing behind it is read. -/
def stop (excess : Decimal.Excess) : Scan (Except Decimal.Excess Toml) :=
  fun _ => some (.error excess, [])

/-- A number in base ten: an integer unless it has a fraction or an exponent. -/
def decimalNumber (limit? : Option Nat) : Scan (Except Decimal.Excess Toml) := do
  let isNegative ← sign
  let whole ← whole
  let fraction ← (do mark '.'; digitGroups Decimal.isDigit) <|> pure []
  let exponent? ← (do return some (← exponent)) <|> pure none
  if fraction.isEmpty && exponent?.isNone then
    let value : Int := Decimal.ofDigits whole
    match Decimal.readExcess? limit? value with
    | some excess => stop excess
    | none => return .ok (.integer (if isNegative then -value else value))
  else
    return .ok (.double (.ofDecimal isNegative (Decimal.ofDigits (whole ++ fraction))
      (exponent?.getD 0 - fraction.length)))

/-- A number that is written as a word. -/
def wordNumber : Scan Toml := do
  let isNegative ← sign
  (do exactly "inf"; return .double (.infinity isNegative)) <|>
    (do exactly "nan"; return .double .nan)

/-! ### Moments -/

/-- A number of as many digits. -/
def numberOf (width : Nat) : Scan Nat := fun text => do
  let digits := text.take width
  if digits.length = width && digits.all Decimal.isDigit then
    some (Decimal.ofDigits digits, text.drop width)
  else none

def day : Scan Day := do
  let year ← numberOf 4
  mark '-'
  let month ← numberOf 2
  mark '-'
  let day ← numberOf 2
  Day.ofNumbers? year month day

/-- The microseconds that the digits of a fraction of a second say: the first six of them count. -/
def microseconds (digits : List Char) : Nat :=
  Decimal.ofDigits (digits.take 6 ++ List.replicate (6 - digits.length) '0')

def time : Scan Time := do
  let hour ← numberOf 2
  mark ':'
  let minute ← numberOf 2
  mark ':'
  let second ← numberOf 2
  let fraction ← (do mark '.'; someRun Decimal.isDigit) <|> pure []
  Time.ofNumbers? hour minute second (microseconds fraction)

/-- The distance from universal time in minutes. -/
def offset : Scan Int :=
  (do
    let _ ← one fun char => char = 'Z' || char = 'z'
    return 0) <|> do
    let sign ← one fun char => char = '+' || char = '-'
    let hour ← numberOf 2
    mark ':'
    let minute ← numberOf 2
    if hour < 24 && minute < 60 then
      let minutes : Int := (60 * hour + minute : Nat)
      return if sign = '-' then -minutes else minutes
    else failure

def dayOrTime : Scan Moment :=
  (do
    let day ← day
    (do
      let _ ← one fun char => char = 'T' || char = 't' || char = ' '
      let time ← time
      let offset? ← (do return some (← offset)) <|> pure none
      return .both day time offset?) <|> return .day day) <|> do
    return .time (← time)

/-! ### Scalars -/

/-- A value that has no parts and is no number in base ten. -/
def unlimitedScalar : Scan Toml :=
  (do return .string (← quotedText)) <|>
  (do exactly "true"; return .boolean true) <|>
  (do exactly "false"; return .boolean false) <|>
  (do return .moment (← dayOrTime)) <|>
  (do return .integer (← basedNumber "0x" 16)) <|>
  (do return .integer (← basedNumber "0b" 2)) <|>
  (do return .integer (← basedNumber "0o" 8))

/-- A value that has no parts. -/
def scalar (limit? : Option Nat) : Scan (Except Decimal.Excess Toml) :=
  (do return .ok (← unlimitedScalar)) <|> decimalNumber limit? <|> (do return .ok (← wordNumber))

end Schemagram.Toml
