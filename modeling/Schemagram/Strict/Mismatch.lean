import Schemagram.Decimal.Natural
import Schemagram.Text.Quoted

/-!
# Why a text does not match the strict grammar

A mismatch names its cause and the offset of the character or token at fault; at the end of the text
the offset is the length of the text.
-/

namespace Schemagram.Strict

/-- What the grammar wanted where it found something else. -/
inductive Wanted where
  /-- A keyword or a punctuation mark. -/
  | exactly (text : String)
  | word
  | string
  | arrow
  | declaration
  | enumValue
  deriving DecidableEq, Repr

/-- What is wrong with a text. -/
inductive Mismatch.Cause where
  /-- A character starts no token. -/
  | unexpectedCharacter (char : Char)
  /-- The text ends inside a declaration. -/
  | unexpectedEnd
  /-- A token stands where the grammar wants another one. -/
  | expected (wanted : Wanted) (found : String)
  /-- A table has a second note. -/
  | noteTwice
  /-- A column property is none of the four. -/
  | unknownProperty (found : String)
  /-- The size of a type is no number. -/
  | expectedNumber (type : String) (found : String)
  deriving DecidableEq, Repr

/-- The first place at which a text does not match the grammar. -/
structure Mismatch where
  cause : Mismatch.Cause
  position : Nat
  deriving DecidableEq, Repr

/-- How a message names what was wanted. -/
def Wanted.description : Wanted → String
  | .exactly text => Text.quote text
  | .word => "word"
  | .string => "string"
  | .arrow => "'<' or '>'"
  | .declaration => "Table, Enum or Ref"
  | .enumValue => "enum value"

def Mismatch.Cause.message : Mismatch.Cause → String
  | .unexpectedCharacter char => "Unexpected character " ++ Text.quote (String.singleton char)
  | .unexpectedEnd => "Unexpected end of input"
  | .expected wanted found => "Expected " ++ wanted.description ++ ", found " ++ Text.quote found
  | .noteTwice => "Table note declared twice"
  | .unknownProperty found => "Unknown attribute property " ++ Text.quote found
  | .expectedNumber type found =>
    "Expected number in type " ++ Text.quote type ++ ", found " ++ Text.quote found

/-- The cause in words, with the offset. -/
def Mismatch.message (mismatch : Mismatch) : String :=
  mismatch.cause.message ++ " at offset " ++ Decimal.text mismatch.position

end Schemagram.Strict
