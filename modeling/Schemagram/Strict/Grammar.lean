import Schemagram.Strict.Token
import Schemagram.Strict.Declaration

/-!
# Reading declarations off a token list

One rule of the grammar takes the tokens of its phrase off the front of a list and returns what they
declare, or the mismatch at the first token that fits no continuation. `finish` is the offset at
which the text ends, where a missing token is reported.

Keywords are legal names: only the rule that is being read decides what a word stands for.  The
`takes_*` lemmas say that every rule which succeeds takes at least one token, so that repeating a
rule ends.
-/

namespace Schemagram.Strict

namespace Token

/-- Whether a token is a given keyword or punctuation mark; a quoted string is neither. -/
def isMark (token : Token) (text : String) : Bool := token.kind ≠ .string && token.text = text

/-- The text of a quoted string without its quotes. -/
def unquoted (token : Token) : String := String.ofList (token.text.toList.drop 1).dropLast

end Token

/-- A rule reads a part of a declaration off the front of a token list. -/
abbrev Rule := StateT (List Token) (Except Mismatch)

namespace Rule

variable {Part Other : Type}

/-- A rule that never leaves more tokens than it found. -/
def Keeps (rule : Rule Part) : Prop :=
  ∀ tokens part rest, rule tokens = .ok (part, rest) → rest.length ≤ tokens.length

/-- A rule that takes at least one token when it succeeds. -/
def Takes (rule : Rule Part) : Prop :=
  ∀ tokens part rest, rule tokens = .ok (part, rest) → rest.length < tokens.length

theorem bind_eq_ok {rule : Rule Part} {more : Part → Rule Other} {tokens rest : List Token}
    {result : Other} :
    (rule >>= more) tokens = .ok (result, rest) ↔
      ∃ part after, rule tokens = .ok (part, after) ∧ more part after = .ok (result, rest) := by
  simp only [bind, StateT.bind, Except.bind]
  cases rule tokens with
  | error mismatch => simp
  | ok read =>
    rcases read with ⟨part, after⟩
    simp [and_assoc]

theorem Takes.keeps {rule : Rule Part} (takes : rule.Takes) : rule.Keeps :=
  fun _ _ _ read => Nat.le_of_lt (takes _ _ _ read)

theorem keeps_pure (part : Part) : Keeps (pure part : Rule Part) := by
  intro tokens found rest read
  cases read
  exact Nat.le_refl _

theorem keeps_throw (mismatch : Mismatch) : Keeps (throw mismatch : Rule Part) := by
  intro tokens found rest read
  cases read

theorem Takes.bind {rule : Rule Part} {more : Part → Rule Other} (takes : rule.Takes)
    (keeps : ∀ part, (more part).Keeps) : (rule >>= more).Takes := by
  intro tokens part rest read
  rcases bind_eq_ok.1 read with ⟨first, after, firstRead, moreRead⟩
  exact Nat.lt_of_le_of_lt (keeps first _ _ _ moreRead) (takes _ _ _ firstRead)

theorem Keeps.bind {rule : Rule Part} {more : Part → Rule Other} (first : rule.Keeps)
    (keeps : ∀ part, (more part).Keeps) : (rule >>= more).Keeps := by
  intro tokens part rest read
  rcases bind_eq_ok.1 read with ⟨found, after, firstRead, moreRead⟩
  exact Nat.le_trans (keeps found _ _ _ moreRead) (first _ _ _ firstRead)

theorem keeps_get : Keeps (get : Rule (List Token)) := by
  intro tokens part rest read
  cases read
  exact Nat.le_refl _

/-- Repeats a rule until a test on the tokens left says stop.  The rule sees the parts read
before. -/
def repeated (stops : List Token → Bool) (rule : List Part → Rule Part)
    (takes : ∀ before, (rule before).Takes) (before : List Part) (tokens : List Token) :
    Except Mismatch (List Part × List Token) :=
  if stops tokens then .ok (before, tokens)
  else
    match _read : rule before tokens with
    | .error mismatch => .error mismatch
    | .ok (part, rest) => repeated stops rule takes (before ++ [part]) rest
termination_by tokens.length
decreasing_by exact takes before _ _ _ _read

theorem keeps_repeated (stops : List Token → Bool) (rule : List Part → Rule Part)
    (takes : ∀ before, (rule before).Takes) (before : List Part) :
    Keeps (repeated stops rule takes before) := by
  intro tokens
  fun_induction repeated stops rule takes before tokens with
  | case1 before tokens stop =>
    intro parts rest read
    cases read
    exact Nat.le_refl _
  | case2 before tokens stop mismatch failed =>
    intro parts rest read
    cases read
  | case3 before tokens stop part after partRead ih =>
    intro parts rest read
    exact Nat.le_trans (ih _ _ read) (Nat.le_of_lt (takes before _ _ _ partRead))

end Rule

namespace Grammar

open Text (isDigit)

variable (finish : Nat)

/-- Whether the next token is a given keyword or punctuation mark. -/
def startsWith (text : String) : List Token → Bool
  | [] => false
  | token :: _ => token.isMark text

/-- Whether the next token is a given mark; nothing is taken. -/
def isNext (text : String) : Rule Bool := return startsWith text (← get)

def next : Rule Token
  | [] => .error ⟨.unexpectedEnd, finish⟩
  | token :: rest => .ok (token, rest)

/-- Takes a token that a test accepts. -/
def nextIf (accepts : Token → Bool) (wanted : Wanted) : Rule Token := do
  let token ← next finish
  if accepts token then return token
  else throw ⟨.expected wanted token.text, token.position⟩

/-- Takes a given keyword or punctuation mark. -/
def mark (text : String) : Rule Token := nextIf finish (·.isMark text) (.exactly text)

/-- Takes a word, be it a keyword or not. -/
def word : Rule String := do
  let token ← nextIf finish (·.kind = .word) .word
  return token.text

/-- Takes a quoted string and returns what stands between its quotes. -/
def string : Rule String := do
  let token ← nextIf finish (·.kind = .string) .string
  return token.unquoted

/-- Takes an arrow: after `<` the left side holds the key, after `>` the right side. -/
def arrow : Rule Arrow := do
  let token ← nextIf finish (fun token => token.text = "<" || token.text = ">") .arrow
  return if token.text = "<" then .left else .right

/-- Reads `NAME "." NAME`. -/
def path : Rule Path := do
  let table ← word finish
  let _ ← mark finish "."
  let column ← word finish
  return ⟨table, column⟩

/-- Whether a size is written with digits only. -/
def isNumber (text : String) : Bool := !text.isEmpty && text.toList.all isDigit

/-- Reads the second size of a type, if there is a comma. -/
def secondSize : Rule (List String) := do
  if ← isNext "," then
    let _ ← next finish
    let size ← word finish
    return [size]
  else return []

/-- Reads the sizes of a type; a size that is no number is reported at the closing parenthesis. -/
def sizes (base : String) : Rule (List String) := do
  let _ ← mark finish "("
  let first ← word finish
  let second ← secondSize finish
  let close ← mark finish ")"
  match (first :: second).find? (!isNumber ·) with
  | some size => throw ⟨.expectedNumber base size, close.position⟩
  | none => return first :: second

/-- Reads `NAME ("(" NUMBER ("," NUMBER)? ")")?`. -/
def columnType : Rule ColumnType := do
  let base ← word finish
  if ← isNext "(" then return ⟨base, ← sizes finish base⟩
  else return ⟨base, []⟩

/-- Reads the rest of a property after its keyword. -/
def propertyOf (token : Token) : Rule Property :=
  if token.isMark "pk" then return .primaryKey
  else if token.isMark "nn" then return .notNull
  else if token.isMark "note" then do
    let _ ← mark finish ":"
    return .note (← string finish)
  else if token.isMark "ref" then do
    let _ ← mark finish ":"
    let direction ← arrow finish
    return .reference direction (← path finish)
  else throw ⟨.unknownProperty token.text, token.position⟩

/-- Reads a property of a column. -/
def property : Rule Property := do
  let token ← next finish
  propertyOf finish token

/-- Passes over a comma, if there is one. -/
def optionalComma : Rule Unit :=
  modify fun tokens => if startsWith "," tokens then tokens.drop 1 else tokens

/-- Reads a member of an enum, with the comma that may follow it. -/
def member : Rule String := do
  let token ← nextIf finish (·.kind ≠ .punctuation) .enumValue
  optionalComma
  return if token.kind = .word then token.text else token.unquoted

/-! ### Every rule takes a token -/

open Rule

theorem keeps_isNext (text : String) : Keeps (isNext text) := keeps_get.bind fun _ => keeps_pure _

theorem takes_next : Takes (next finish) := by
  intro tokens part rest read
  cases tokens <;> simp_all [next]

theorem takes_nextIf (accepts : Token → Bool) (wanted : Wanted) :
    Takes (nextIf finish accepts wanted) := by
  refine (takes_next finish).bind fun token => ?_
  split
  · exact keeps_pure _
  · exact keeps_throw _

theorem takes_mark (text : String) : Takes (mark finish text) := takes_nextIf finish _ _

theorem takes_word : Takes (word finish) := (takes_nextIf finish _ _).bind fun _ => keeps_pure _

theorem takes_string : Takes (string finish) := (takes_nextIf finish _ _).bind fun _ => keeps_pure _

theorem takes_arrow : Takes (arrow finish) := (takes_nextIf finish _ _).bind fun _ => keeps_pure _

theorem takes_path : Takes (path finish) :=
  (takes_word finish).bind fun _ => (takes_mark finish ".").keeps.bind fun _ =>
    (takes_word finish).keeps.bind fun _ => keeps_pure _

theorem keeps_secondSize : Keeps (secondSize finish) := by
  refine (keeps_isNext ",").bind fun comma => ?_
  split
  · exact (takes_next finish).keeps.bind fun _ =>
      (takes_word finish).keeps.bind fun _ => keeps_pure _
  · exact keeps_pure _

theorem takes_sizes (base : String) : Takes (sizes finish base) := by
  refine (takes_mark finish "(").bind fun _ => (takes_word finish).keeps.bind fun _ =>
    (keeps_secondSize finish).bind fun _ => (takes_mark finish ")").keeps.bind fun _ => ?_
  split
  · exact keeps_throw _
  · exact keeps_pure _

theorem takes_columnType : Takes (columnType finish) := by
  refine (takes_word finish).bind fun _ => (keeps_isNext "(").bind fun _ => ?_
  split
  · exact (takes_sizes finish _).keeps.bind fun _ => keeps_pure _
  · exact keeps_pure _

theorem keeps_propertyOf (token : Token) : Keeps (propertyOf finish token) := by
  unfold propertyOf
  split
  · exact keeps_pure _
  split
  · exact keeps_pure _
  split
  · exact (takes_mark finish ":").keeps.bind fun _ =>
      (takes_string finish).keeps.bind fun _ => keeps_pure _
  split
  · exact (takes_mark finish ":").keeps.bind fun _ => (takes_arrow finish).keeps.bind fun _ =>
      (takes_path finish).keeps.bind fun _ => keeps_pure _
  · exact keeps_throw _

theorem takes_property : Takes (property finish) :=
  (takes_next finish).bind fun token => keeps_propertyOf finish token

theorem keeps_optionalComma : Keeps optionalComma := by
  intro tokens part rest read
  cases read
  dsimp only
  split
  · simp
  · exact Nat.le_refl _

theorem takes_member : Takes (member finish) :=
  (takes_nextIf finish _ _).bind fun _ => keeps_optionalComma.bind fun _ => keeps_pure _

/-! ### Columns, tables, enums and references -/

/-- A further property with the comma before it. -/
def nextProperty : Rule Property := do
  let _ ← mark finish ","
  property finish

theorem takes_nextProperty : Takes (nextProperty finish) :=
  (takes_mark finish ",").bind fun _ => (takes_property finish).keeps

/-- Reads the properties of a column between brackets, at least one of them. -/
def properties : Rule (List Property) := do
  let _ ← mark finish "["
  let first ← property finish
  let all ← repeated (!startsWith "," ·) (fun _ => nextProperty finish)
    (fun _ => takes_nextProperty finish) [first]
  let _ ← mark finish "]"
  return all

theorem takes_properties : Takes (properties finish) :=
  (takes_mark finish "[").bind fun _ => (takes_property finish).keeps.bind fun _ =>
    (keeps_repeated _ _ _ _).bind fun _ => (takes_mark finish "]").keeps.bind fun _ => keeps_pure _

/-- Reads a column: its name, its type, and its properties if there are any. -/
def column : Rule ColumnDeclaration := do
  let name ← word finish
  let type ← columnType finish
  if ← isNext "[" then return ⟨name, type, ← properties finish⟩
  else return ⟨name, type, []⟩

theorem takes_column : Takes (column finish) := by
  refine (takes_word finish).bind fun _ => (takes_columnType finish).keeps.bind fun _ =>
    (keeps_isNext "[").bind fun _ => ?_
  split
  · exact (takes_properties finish).keeps.bind fun _ => keeps_pure _
  · exact keeps_pure _

/-- Whether a note follows: the keyword with a colon behind it, since a column may be named so. -/
def noteFollows : List Token → Bool
  | keyword :: colon :: _ => keyword.isMark "Note" && colon.isMark ":"
  | _ => false

/-- Reads the note of a table, which may have no other note before. -/
def note (before : List TableEntry) : Rule TableEntry := do
  let keyword ← next finish
  if before.any TableEntry.isNote then throw ⟨.noteTwice, keyword.position⟩
  else
    let _ ← mark finish ":"
    return .note (← string finish)

theorem takes_note (before : List TableEntry) : Takes (note finish before) := by
  refine (takes_next finish).bind fun keyword => ?_
  split
  · exact keeps_throw _
  · exact (takes_mark finish ":").keeps.bind fun _ =>
      (takes_string finish).keeps.bind fun _ => keeps_pure _

/-- Reads a line of a table. -/
def entry (before : List TableEntry) : Rule TableEntry := fun tokens =>
  if noteFollows tokens then note finish before tokens else (.column <$> column finish) tokens

theorem takes_entry (before : List TableEntry) : Takes (entry finish before) := by
  intro tokens part rest read
  unfold entry at read
  split at read
  · exact takes_note finish before _ _ _ read
  · rw [map_eq_pure_bind] at read
    exact (takes_column finish).bind (fun _ => keeps_pure _) _ _ _ read

/-- Reads the second name of a table, if there is one. -/
def alias? : Rule (Option String) := do
  if ← isNext "as" then
    let _ ← next finish
    return some (← word finish)
  else return none

theorem keeps_alias? : Keeps (alias? finish) := by
  refine (keeps_isNext "as").bind fun _ => ?_
  split
  · exact (takes_next finish).keeps.bind fun _ =>
      (takes_word finish).keeps.bind fun _ => keeps_pure _
  · exact keeps_pure _

def table : Rule Declaration := do
  let _ ← mark finish "Table"
  let name ← word finish
  let second? ← alias? finish
  let _ ← mark finish "\x7b"
  let entries ← repeated (startsWith "\x7d") (entry finish) (takes_entry finish) []
  let _ ← mark finish "\x7d"
  return .table name second? entries

def enum : Rule Declaration := do
  let _ ← mark finish "Enum"
  let name ← word finish
  let _ ← mark finish "\x7b"
  let members ← repeated (startsWith "\x7d") (fun _ => member finish)
    (fun _ => takes_member finish) []
  let _ ← mark finish "\x7d"
  return .enum name members

/-- Reads the name of a reference, if there is one. -/
def referenceName? : Rule (Option String) := do
  if ← isNext ":" then return none else return some (← word finish)

/-- Reads a reference between two columns. -/
def reference : Rule Declaration := do
  let _ ← mark finish "Ref"
  let name? ← referenceName? finish
  let _ ← mark finish ":"
  let left ← path finish
  let direction ← arrow finish
  let right ← path finish
  return .reference name? left direction right

/-- Refuses a token that starts no declaration. -/
def noDeclaration : Rule Declaration := do
  let token ← next finish
  throw ⟨.expected .declaration token.text, token.position⟩

/-- Reads a declaration, as its keyword says. -/
def declaration : Rule Declaration := fun tokens =>
  if startsWith "Table" tokens then table finish tokens
  else if startsWith "Enum" tokens then enum finish tokens
  else if startsWith "Ref" tokens then reference finish tokens
  else noDeclaration finish tokens

theorem takes_table : Takes (table finish) :=
  (takes_mark finish _).bind fun _ => (takes_word finish).keeps.bind fun _ =>
    (keeps_alias? finish).bind fun _ => (takes_mark finish _).keeps.bind fun _ =>
      (keeps_repeated _ _ _ _).bind fun _ => (takes_mark finish _).keeps.bind fun _ => keeps_pure _

theorem takes_enum : Takes (enum finish) :=
  (takes_mark finish _).bind fun _ => (takes_word finish).keeps.bind fun _ =>
    (takes_mark finish _).keeps.bind fun _ => (keeps_repeated _ _ _ _).bind fun _ =>
      (takes_mark finish _).keeps.bind fun _ => keeps_pure _

theorem keeps_referenceName? : Keeps (referenceName? finish) := by
  refine (keeps_isNext ":").bind fun _ => ?_
  split
  · exact keeps_pure _
  · exact (takes_word finish).keeps.bind fun _ => keeps_pure _

theorem takes_reference : Takes (reference finish) :=
  (takes_mark finish _).bind fun _ => (keeps_referenceName? finish).bind fun _ =>
    (takes_mark finish _).keeps.bind fun _ => (takes_path finish).keeps.bind fun _ =>
      (takes_arrow finish).keeps.bind fun _ => (takes_path finish).keeps.bind fun _ => keeps_pure _

theorem takes_noDeclaration : Takes (noDeclaration finish) :=
  (takes_next finish).bind fun _ => keeps_throw _

theorem takes_declaration : Takes (declaration finish) := by
  intro tokens part rest read
  unfold declaration at read
  split at read
  · exact takes_table finish _ _ _ read
  split at read
  · exact takes_enum finish _ _ _ read
  split at read
  · exact takes_reference finish _ _ _ read
  · exact takes_noDeclaration finish _ _ _ read

/-- Reads declarations to the end of the tokens. -/
def schema (tokens : List Token) : Except Mismatch (List Declaration × List Token) :=
  repeated List.isEmpty (fun _ => declaration finish) (fun _ => takes_declaration finish) [] tokens

end Grammar

end Schemagram.Strict
