import Schemagram.Decimal.Natural
import Schemagram.Text.Hex

/-!
# UTF-8

Bytes read as text.  The first byte of a character says how many more belong to it and in which
range the next one lies, so that no character has two forms and none is a surrogate.  Reading stops
at the first byte that rules the text out; the fault names the bytes of the character that it
interrupts.
-/

namespace Schemagram.Text.Utf8

/-- Why bytes are no text. -/
inductive Reason where
  | invalidStart
  | invalidContinuation
  | unexpectedEnd
  deriving DecidableEq, Repr

def Reason.message : Reason → String
  | .invalidStart => "invalid start byte"
  | .invalidContinuation => "invalid continuation byte"
  | .unexpectedEnd => "unexpected end of data"

/-- A reason with the bytes that it is about: how many there are, the first of them and its
position. -/
structure Fault where
  reason : Reason
  position : Nat
  first : Nat
  size : Nat
  deriving DecidableEq, Repr

def Fault.message (fault : Fault) : String :=
  let place :=
    if fault.size = 1 then
      "byte 0x" ++ String.ofList (hexDigits 2 fault.first) ++ " in position " ++
        Decimal.text fault.position
    else
      "bytes in position " ++ Decimal.text fault.position ++ "-" ++
        Decimal.text (fault.position + fault.size - 1)
  "'utf-8' codec can't decode " ++ place ++ ": " ++ fault.reason.message

/-- A character of which some bytes have been read. -/
structure Pending where
  first : Nat
  /-- How many bytes have been read. -/
  size : Nat
  /-- The number that their payload makes. -/
  value : Nat
  /-- How many bytes are missing after the next one. -/
  more : Nat
  /-- The range of the next byte. -/
  low : Nat
  high : Nat

/-- The character that a first byte starts, if it is one of several bytes. -/
def start? (byte : Nat) : Option Pending :=
  if 0xC2 ≤ byte && byte ≤ 0xDF then some ⟨byte, 1, byte - 0xC0, 0, 0x80, 0xBF⟩
  else if 0xE0 ≤ byte && byte ≤ 0xEF then
    some ⟨byte, 1, byte - 0xE0, 1, if byte = 0xE0 then 0xA0 else 0x80,
      if byte = 0xED then 0x9F else 0xBF⟩
  else if 0xF0 ≤ byte && byte ≤ 0xF4 then
    some ⟨byte, 1, byte - 0xF0, 2, if byte = 0xF0 then 0x90 else 0x80,
      if byte = 0xF4 then 0x8F else 0xBF⟩
  else none

/-- The fault of a character that is not complete before a position. -/
def Pending.fault (pending : Pending) (reason : Reason) (position : Nat) : Fault :=
  ⟨reason, position - pending.size, pending.first, pending.size⟩

/-- Reads the bytes from a position on, inside or between characters. -/
def decodeFrom (position : Nat) (pending? : Option Pending) : List UInt8 → Except Fault (List Char)
  | [] =>
    match pending? with
    | none => .ok []
    | some pending => .error (pending.fault .unexpectedEnd position)
  | byte :: rest =>
    match pending? with
    | none =>
      if byte.toNat < 0x80 then
        (decodeFrom (position + 1) none rest).map (Char.ofNat byte.toNat :: ·)
      else
        match start? byte.toNat with
        | some pending => decodeFrom (position + 1) (some pending) rest
        | none => .error ⟨.invalidStart, position, byte.toNat, 1⟩
    | some pending =>
      if pending.low ≤ byte.toNat && byte.toNat ≤ pending.high then
        let value := 64 * pending.value + (byte.toNat - 0x80)
        match pending.more with
        | 0 => (decodeFrom (position + 1) none rest).map (Char.ofNat value :: ·)
        | more + 1 =>
          decodeFrom (position + 1)
            (some ⟨pending.first, pending.size + 1, value, more, 0x80, 0xBF⟩) rest
      else .error (pending.fault .invalidContinuation position)

def decode (bytes : List UInt8) : Except Fault (List Char) := decodeFrom 0 none bytes

end Schemagram.Text.Utf8
