import Schemagram.Strict.Table

/-!
# Phrases of the strict grammar

A phrase is a derivation of one nonterminal of the grammar: it has a place for every token that the
rule wants, and each place takes only such tokens as may stand there. `tokens` lists the tokens of a
phrase from left to right, so that a token list derives from the grammar when it is the token list
of a phrase.

What a phrase spells is read off its places.  A column is a primary key when one of its properties
says so, and its last note counts; a reference runs from the side that holds the key; of several
enums with one name the last one counts.
-/

namespace Schemagram.Strict

/-! ### Places for one token -/

/-- A keyword or a punctuation mark, which no quoted string can be. -/
abbrev Mark (text : String) := { token : Token // token.isMark text = true }

/-- `NAME`: any word, be it a keyword or not. -/
abbrev Word := { token : Token // token.kind = .word }

/-- `STRING`: a text between quotes. -/
abbrev Quoted := { token : Token // token.kind = .string }

/-- `NUMBER`: a word of digits. -/
abbrev Number :=
  { token : Token // token.kind = .word ∧ ∀ char ∈ token.text.toList, Text.isDigit char = true }

/-- `NAME | STRING`. -/
abbrev Member := { token : Token // token.kind = .word ∨ token.kind = .string }

/-! ### Phrases -/

/-- `NAME "." NAME`. -/
structure PathPhrase where
  table : Word
  dot : Mark "."
  column : Word

/-- `"<" | ">"`. -/
inductive ArrowPhrase where
  | left (mark : Mark "<")
  | right (mark : Mark ">")

/-- `"(" NUMBER ("," NUMBER)? ")"`. -/
structure SizesPhrase where
  opening : Mark "("
  first : Number
  second? : Option (Mark "," × Number)
  closing : Mark ")"

/-- A name with sizes behind it, if there are any. -/
structure TypePhrase where
  base : Word
  sizes? : Option SizesPhrase

/-- `"pk" | "nn" | "note" ":" STRING | "ref" ":" ("<" | ">") PATH`. -/
inductive PropertyPhrase where
  | primaryKey (keyword : Mark "pk")
  | notNull (keyword : Mark "nn")
  | note (keyword : Mark "note") (colon : Mark ":") (text : Quoted)
  | reference (keyword : Mark "ref") (colon : Mark ":") (arrow : ArrowPhrase) (other : PathPhrase)

/-- `"[" property ("," property)* "]"`. -/
structure PropertiesPhrase where
  opening : Mark "["
  first : PropertyPhrase
  more : List (Mark "," × PropertyPhrase)
  closing : Mark "]"

/-- A name, a type, and properties if there are any. -/
structure ColumnPhrase where
  name : Word
  type : TypePhrase
  properties? : Option PropertiesPhrase

/-- `"Note" ":" STRING`. -/
structure NotePhrase where
  keyword : Mark "Note"
  colon : Mark ":"
  text : Quoted

/-- A line of a table. -/
inductive EntryPhrase where
  | note (phrase : NotePhrase)
  | column (phrase : ColumnPhrase)

def EntryPhrase.note? : EntryPhrase → Option NotePhrase
  | .note phrase => some phrase
  | .column _ => none

def EntryPhrase.column? : EntryPhrase → Option ColumnPhrase
  | .note _ => none
  | .column phrase => some phrase

/-- `"Table" NAME ("as" NAME)?` and lines between braces, of which at most one is a note. -/
structure TablePhrase where
  keyword : Mark "Table"
  name : Word
  alias? : Option (Mark "as" × Word)
  opening : Mark "\x7b"
  entries : List EntryPhrase
  closing : Mark "\x7d"
  atMostOneNote : (entries.filterMap EntryPhrase.note?).length ≤ 1

/-- A member of an enum and the comma that may follow it. -/
structure MemberPhrase where
  value : Member
  comma? : Option (Mark ",")

/-- `"Enum" NAME` and members between braces. -/
structure EnumPhrase where
  keyword : Mark "Enum"
  name : Word
  opening : Mark "\x7b"
  members : List MemberPhrase
  closing : Mark "\x7d"

/-- `"Ref" NAME? ":" PATH ("<" | ">") PATH`. -/
structure ReferencePhrase where
  keyword : Mark "Ref"
  name? : Option Word
  colon : Mark ":"
  left : PathPhrase
  arrow : ArrowPhrase
  right : PathPhrase

/-- `table | enum | reference`. -/
inductive DeclarationPhrase where
  | table (phrase : TablePhrase)
  | enum (phrase : EnumPhrase)
  | reference (phrase : ReferencePhrase)

/-- A derivation of a whole text. -/
abbrev Derivation := List DeclarationPhrase

/-! ### The tokens of a phrase -/

def PathPhrase.tokens (phrase : PathPhrase) : List Token :=
  [phrase.table.1, phrase.dot.1, phrase.column.1]

def ArrowPhrase.token : ArrowPhrase → Token
  | .left mark => mark.1
  | .right mark => mark.1

def SizesPhrase.tokens (phrase : SizesPhrase) : List Token :=
  phrase.opening.1 :: phrase.first.1 ::
    (phrase.second?.elim [] (fun second => [second.1.1, second.2.1]) ++ [phrase.closing.1])

def TypePhrase.tokens (phrase : TypePhrase) : List Token :=
  phrase.base.1 :: phrase.sizes?.elim [] SizesPhrase.tokens

def PropertyPhrase.tokens : PropertyPhrase → List Token
  | .primaryKey keyword => [keyword.1]
  | .notNull keyword => [keyword.1]
  | .note keyword colon text => [keyword.1, colon.1, text.1]
  | .reference keyword colon arrow other => keyword.1 :: colon.1 :: arrow.token :: other.tokens

/-- The tokens of a further property, with the comma before it. -/
def PropertyPhrase.tokensAfterComma (further : Mark "," × PropertyPhrase) : List Token :=
  further.1.1 :: further.2.tokens

/-- The tokens of the properties of a column. -/
def PropertiesPhrase.tokens (phrase : PropertiesPhrase) : List Token :=
  phrase.opening.1 :: (phrase.first.tokens ++
    (phrase.more.flatMap PropertyPhrase.tokensAfterComma ++ [phrase.closing.1]))

def ColumnPhrase.tokens (phrase : ColumnPhrase) : List Token :=
  phrase.name.1 :: (phrase.type.tokens ++ phrase.properties?.elim [] PropertiesPhrase.tokens)

def NotePhrase.tokens (phrase : NotePhrase) : List Token :=
  [phrase.keyword.1, phrase.colon.1, phrase.text.1]

/-- The tokens of a line of a table. -/
def EntryPhrase.tokens : EntryPhrase → List Token
  | .note phrase => phrase.tokens
  | .column phrase => phrase.tokens

def TablePhrase.tokens (phrase : TablePhrase) : List Token :=
  phrase.keyword.1 :: phrase.name.1 ::
    (phrase.alias?.elim [] (fun second => [second.1.1, second.2.1]) ++ phrase.opening.1 ::
      (phrase.entries.flatMap EntryPhrase.tokens ++ [phrase.closing.1]))

def MemberPhrase.tokens (phrase : MemberPhrase) : List Token :=
  phrase.value.1 :: phrase.comma?.elim [] fun comma => [comma.1]

def EnumPhrase.tokens (phrase : EnumPhrase) : List Token :=
  phrase.keyword.1 :: phrase.name.1 :: phrase.opening.1 ::
    (phrase.members.flatMap MemberPhrase.tokens ++ [phrase.closing.1])

def ReferencePhrase.tokens (phrase : ReferencePhrase) : List Token :=
  phrase.keyword.1 :: (phrase.name?.elim [] (fun name => [name.1]) ++ phrase.colon.1 ::
    (phrase.left.tokens ++ phrase.arrow.token :: phrase.right.tokens))

def DeclarationPhrase.tokens : DeclarationPhrase → List Token
  | .table phrase => phrase.tokens
  | .enum phrase => phrase.tokens
  | .reference phrase => phrase.tokens

def Derivation.tokens (derivation : Derivation) : List Token :=
  derivation.flatMap DeclarationPhrase.tokens

/-! ### What a phrase spells -/

/-- The dotted form of a path. -/
def PathPhrase.text (phrase : PathPhrase) : String :=
  phrase.table.1.text ++ "." ++ phrase.column.1.text

/-- The reference from the side that holds the key, which is the left one before `<`. -/
def ArrowPhrase.reference (arrow : ArrowPhrase) (name left right : String) : Reference :=
  match arrow with
  | .left _ => { name, source := left, target := right }
  | .right _ => { name, source := right, target := left }

/-- The sizes of a type with a bare comma between them. -/
def SizesPhrase.text (phrase : SizesPhrase) : String :=
  "(" ++ phrase.first.1.text ++ phrase.second?.elim "" (fun second => "," ++ second.2.1.text) ++ ")"

/-- The type without any layout. -/
def TypePhrase.text (phrase : TypePhrase) : String :=
  phrase.base.1.text ++ phrase.sizes?.elim "" SizesPhrase.text

/-- Whether a property makes a primary key. -/
def PropertyPhrase.isPrimaryKey : PropertyPhrase → Bool
  | .primaryKey _ => true
  | _ => false

/-- Whether a property forbids missing values. -/
def PropertyPhrase.isNotNull : PropertyPhrase → Bool
  | .notNull _ => true
  | _ => false

def PropertyPhrase.note? : PropertyPhrase → Option String
  | .note _ _ text => some text.1.unquoted
  | _ => none

/-- The reference of a property of the column with a dotted path. -/
def PropertyPhrase.reference? (path : String) : PropertyPhrase → Option Reference
  | .reference _ _ arrow other => some (arrow.reference "" path other.text)
  | _ => none

/-- The properties of a column, in order. -/
def ColumnPhrase.properties (phrase : ColumnPhrase) : List PropertyPhrase :=
  phrase.properties?.elim [] fun properties => properties.first :: properties.more.map Prod.snd

def ColumnPhrase.column (phrase : ColumnPhrase) : Column where
  name := phrase.name.1.text
  type := phrase.type.text
  isPrimaryKey := phrase.properties.any PropertyPhrase.isPrimaryKey
  isNullable := !phrase.properties.any PropertyPhrase.isNotNull
  note? := (phrase.properties.filterMap PropertyPhrase.note?).getLast?

def ColumnPhrase.references (table : String) (phrase : ColumnPhrase) : List Reference :=
  phrase.properties.filterMap (PropertyPhrase.reference? (table ++ "." ++ phrase.name.1.text))

def TablePhrase.columns (phrase : TablePhrase) : List ColumnPhrase :=
  phrase.entries.filterMap EntryPhrase.column?

def TablePhrase.table (phrase : TablePhrase) : Table where
  name := phrase.name.1.text
  columns := phrase.columns.map ColumnPhrase.column
  alias? := phrase.alias?.map fun second => second.2.1.text
  note? := (phrase.entries.filterMap EntryPhrase.note?).head?.map fun note => note.text.1.unquoted

/-- The text of a member: a word, or what stands between the quotes. -/
def MemberPhrase.text (phrase : MemberPhrase) : String :=
  if phrase.value.1.kind = .word then phrase.value.1.text else phrase.value.1.unquoted

/-- The reference of a phrase; without a name its name is empty. -/
def ReferencePhrase.reference (phrase : ReferencePhrase) : Reference :=
  phrase.arrow.reference (phrase.name?.elim "" fun name => name.1.text) phrase.left.text
    phrase.right.text

namespace DeclarationPhrase

def table? : DeclarationPhrase → Option Table
  | .table phrase => some phrase.table
  | _ => none

/-- The references of a declaration, in the order in which they are written. -/
def references : DeclarationPhrase → List Reference
  | .table phrase => phrase.columns.flatMap (ColumnPhrase.references phrase.name.1.text)
  | .enum _ => []
  | .reference phrase => [phrase.reference]

/-- The name and the members of an enum. -/
def enum? : DeclarationPhrase → Option (String × List String)
  | .enum phrase => some (phrase.name.1.text, phrase.members.map MemberPhrase.text)
  | _ => none

end DeclarationPhrase

namespace Derivation

/-- The tables of a derivation, in order. -/
def tables (derivation : Derivation) : List Table := derivation.filterMap DeclarationPhrase.table?

/-- The references of a derivation, in order. -/
def references (derivation : Derivation) : List Reference :=
  derivation.flatMap DeclarationPhrase.references

/-- The members of the last enum of a name. -/
def members? (derivation : Derivation) (name : String) : Option (List String) :=
  ((derivation.filterMap DeclarationPhrase.enum?).reverse.find? (·.1 = name)).map Prod.snd

end Derivation

end Schemagram.Strict
