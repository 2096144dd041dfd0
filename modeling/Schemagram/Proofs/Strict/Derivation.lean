import Mathlib.Logic.Basic
import Mathlib.Logic.ExistsUnique
import Schemagram.Proofs.Strict.Unambiguous

/-!
# Accepted texts and their derivations

The strict grammar accepts a text exactly when its tokens have a derivation.  The derivation is
unique, and the tables, references and enums that are collected are the ones that it spells.
-/

namespace Schemagram.Strict

/-! ### What declarations collect is what their phrases spell -/

theorem ArrowPhrase.ofArrow_eq (arrow : ArrowPhrase) (name : String) (left right : Path) :
    Reference.ofArrow name left arrow.arrow right = arrow.reference name left.text right.text := by
  cases arrow with
  | left mark => rfl
  | right mark => rfl

theorem TypePhrase.text_type (phrase : TypePhrase) : phrase.type.text = phrase.text := by
  rcases phrase with ⟨base, sizes?⟩
  cases sizes? with
  | none => simp [type, ColumnType.text, text]
  | some sizes =>
    rcases sizes with ⟨opening, first, second?, closing⟩
    cases second? with
    | none =>
      simp [type, ColumnType.text, text, SizesPhrase.sizes, SizesPhrase.text, String.append_assoc]
    | some second =>
      simp [type, ColumnType.text, text, SizesPhrase.sizes, SizesPhrase.text, String.append_assoc]

/-- A fold over properties sets each flag that one of them sets, and keeps the last note. -/
theorem foldl_withProperty (properties : List PropertyPhrase) (column : Column) :
    (properties.map PropertyPhrase.property).foldl Column.withProperty column =
      { column with
        isPrimaryKey := column.isPrimaryKey || properties.any PropertyPhrase.isPrimaryKey
        isNullable := column.isNullable && !properties.any PropertyPhrase.isNotNull
        note? := (properties.filterMap PropertyPhrase.note?).getLast?.or column.note? } := by
  induction properties generalizing column with
  | nil => simp
  | cons property more ih =>
    rw [List.map_cons, List.foldl_cons, ih]
    cases property with
    | primaryKey keyword =>
      simp [PropertyPhrase.property, Column.withProperty, PropertyPhrase.isPrimaryKey,
        PropertyPhrase.isNotNull, PropertyPhrase.note?]
    | notNull keyword =>
      simp [PropertyPhrase.property, Column.withProperty, PropertyPhrase.isPrimaryKey,
        PropertyPhrase.isNotNull, PropertyPhrase.note?]
    | note keyword colon text =>
      cases last : (more.filterMap PropertyPhrase.note?).getLast? <;>
      simp [PropertyPhrase.property, Column.withProperty, PropertyPhrase.isPrimaryKey,
        PropertyPhrase.isNotNull, PropertyPhrase.note?, List.getLast?_cons, last]
    | reference keyword colon arrow other =>
      simp [PropertyPhrase.property, Column.withProperty, PropertyPhrase.isPrimaryKey,
        PropertyPhrase.isNotNull, PropertyPhrase.note?]

theorem ColumnPhrase.toColumn_declaration (phrase : ColumnPhrase) :
    phrase.declaration.toColumn = phrase.column := by
  simp [ColumnDeclaration.toColumn, declaration, foldl_withProperty, column, TypePhrase.text_type]

theorem ColumnPhrase.references_declaration (table : String) (phrase : ColumnPhrase) :
    ColumnDeclaration.references table phrase.declaration = phrase.references table := by
  simp only [ColumnDeclaration.references, declaration, references, List.filterMap_map]
  congr 1
  funext property
  cases property with
  | reference keyword colon arrow other =>
    simp only [Function.comp_apply, PropertyPhrase.property, PropertyPhrase.reference?,
      ArrowPhrase.ofArrow_eq]
    rfl
  | _ => rfl

theorem TablePhrase.filterMap_entries (phrase : TablePhrase) :
    (phrase.entries.map EntryPhrase.entry).filterMap TableEntry.column? =
      phrase.columns.map ColumnPhrase.declaration := by
  rw [columns, List.filterMap_map, List.map_filterMap]
  congr 1
  funext entry
  cases entry <;> rfl

theorem TablePhrase.findSome?_entries (phrase : TablePhrase) :
    (phrase.entries.map EntryPhrase.entry).findSome? TableEntry.note? =
      (phrase.entries.filterMap EntryPhrase.note?).head?.map fun note => note.text.1.unquoted := by
  induction phrase.entries with
  | nil => rfl
  | cons entry more ih =>
    cases entry with
    | note note => rfl
    | column column => exact ih

namespace DeclarationPhrase

theorem table?_declaration (phrase : DeclarationPhrase) :
    phrase.declaration.table? = phrase.table? := by
  cases phrase with
  | table phrase =>
    simp only [declaration, Declaration.table?, table?, TablePhrase.table,
      TablePhrase.filterMap_entries, TablePhrase.findSome?_entries, List.map_map]
    congr 3
    funext column
    exact column.toColumn_declaration
  | enum phrase => rfl
  | reference phrase => rfl

theorem references_declaration (phrase : DeclarationPhrase) :
    phrase.declaration.references = phrase.references := by
  cases phrase with
  | table phrase =>
    simp only [declaration, Declaration.references, references, TablePhrase.filterMap_entries,
      List.flatMap_map]
    congr 1
    funext column
    exact column.references_declaration _
  | enum phrase => rfl
  | reference phrase =>
    rcases phrase with ⟨keyword, name?, colon, left, arrow, right⟩
    simp only [declaration, Declaration.references, references, ReferencePhrase.reference,
      ArrowPhrase.ofArrow_eq]
    cases name? <;> rfl

theorem enum?_declaration (phrase : DeclarationPhrase) :
    phrase.declaration.enum? = phrase.enum? := by
  cases phrase <;> rfl

end DeclarationPhrase

/-- Declarations collect what a derivation spells: its tables, its references in order, and for
every name the members of its last enum. -/
structure Derivation.Spells (derivation : Derivation) (found : List Declaration) : Prop where
  tables : found.filterMap Declaration.table? = derivation.tables
  references : found.flatMap Declaration.references = derivation.references
  enums : ∀ name, Keyed.get? name (Keyed.ofPairs (found.filterMap Declaration.enum?)) =
    derivation.members? name

theorem Derivation.spells (derivation : Derivation) :
    derivation.Spells (derivation.map DeclarationPhrase.declaration) where
  tables := by
    rw [List.filterMap_map, Derivation.tables]
    exact congrArg (List.filterMap · derivation) (funext DeclarationPhrase.table?_declaration)
  references := by
    rw [List.flatMap_map, Derivation.references]
    exact congrArg (List.flatMap · derivation) (funext DeclarationPhrase.references_declaration)
  enums name := by
    rw [Keyed.get?_ofPairs, List.filterMap_map, Derivation.members?]
    have sameEnums : Declaration.enum? ∘ DeclarationPhrase.declaration = DeclarationPhrase.enum? :=
      funext DeclarationPhrase.enum?_declaration
    rw [sameEnums]

/-! ### Acceptance -/

theorem declarations_eq_ok {text : String} {found : List Declaration} :
    declarations text = .ok found ↔
      (Tokens.ofString text).stopped? = none ∧ ∃ derivation : Derivation,
        derivation.map DeclarationPhrase.declaration = found ∧
        derivation.tokens = (Tokens.ofString text).tokens := by
  unfold declarations
  cases stopped : (Tokens.ofString text).stopped? with
  | some mismatch => simp [stopped]
  | none =>
    have readIff : (Grammar.schema text.length (Tokens.ofString text).tokens).map Prod.fst =
        .ok found ↔
        ∃ rest, Grammar.schema text.length (Tokens.ofString text).tokens = .ok (found, rest) := by
      cases Grammar.schema text.length (Tokens.ofString text).tokens with
      | error mismatch => simp [Except.map]
      | ok read =>
        rcases read with ⟨declared, rest⟩
        simp [Except.map]
    simp only [stopped, readIff, Grammar.schema_eq_ok, true_and]
    constructor
    · rintro ⟨rest, rfl, derivation, rfl, sameTokens⟩
      exact ⟨derivation, rfl, sameTokens.symm⟩
    · rintro ⟨derivation, rfl, sameTokens⟩
      exact ⟨[], rfl, derivation, rfl, sameTokens.symm⟩

theorem parse?_eq_none {text : String} :
    (parse? text).result = none ↔ ¬∃ found, declarations text = .ok found := by
  unfold parse?
  cases declarations text with
  | error mismatch => simp
  | ok found => simp [pure]

theorem exists_declarations_iff {text : String} :
    (∃ found, declarations text = .ok found) ↔
      (Tokens.ofString text).stopped? = none ∧
        ∃ derivation : Derivation, derivation.tokens = (Tokens.ofString text).tokens := by
  constructor
  · rintro ⟨found, accepted⟩
    rcases declarations_eq_ok.1 accepted with ⟨tokenizes, derivation, _, derives⟩
    exact ⟨tokenizes, derivation, derives⟩
  · rintro ⟨tokenizes, derivation, derives⟩
    exact ⟨_, declarations_eq_ok.2 ⟨tokenizes, derivation, rfl, derives⟩⟩

/-- A text that consists of tokens is accepted if and only if its tokens have a derivation.  An
accepted text has exactly one, and it spells all that is collected.  A text has no tables exactly
when it does not consist of tokens or they have no derivation. -/
theorem accepts_iff_derives (text : String) :
    ((Tokens.ofString text).stopped? = none →
      ((∃ found, declarations text = .ok found) ↔
        ∃ derivation : Derivation, derivation.tokens = (Tokens.ofString text).tokens)) ∧
    (∀ found, declarations text = .ok found →
      (∃! derivation : Derivation, derivation.tokens = (Tokens.ofString text).tokens) ∧
      ∀ derivation : Derivation, derivation.tokens = (Tokens.ofString text).tokens →
        derivation.Spells found) ∧
    ((parse? text).result = none ↔
      (Tokens.ofString text).stopped? ≠ none ∨
        ¬∃ derivation : Derivation, derivation.tokens = (Tokens.ofString text).tokens) := by
  refine ⟨fun tokenizes => ?_, fun found accepted => ?_, ?_⟩
  · rw [exists_declarations_iff]
    simp [tokenizes]
  · rcases declarations_eq_ok.1 accepted with ⟨_, derivation, rfl, derives⟩
    have unique : ∀ other : Derivation, other.tokens = (Tokens.ofString text).tokens →
        other = derivation :=
      fun other otherDerives => Derivation.eq_of_tokens_eq (otherDerives.trans derives.symm)
    refine ⟨⟨derivation, derives, unique⟩, fun other otherDerives => ?_⟩
    rw [unique other otherDerives]
    exact derivation.spells
  · rw [parse?_eq_none, exists_declarations_iff, not_and_or]

/-- A text in which keywords are names, with a note of a column and one of the table. -/
def keywordNames : String :=
  "Table as as x \x7b Note Note [note: 'a', ref: < b.c] Note: 'n' \x7d Enum e \x7b a, 'b' Enum \x7d" ++
    "Enum e \x7b z \x7d Ref : Ref.Table > as.Note // end"

theorem keywordNames_derives :
    (Tokens.ofString keywordNames).stopped? = none ∧
      (∃ derivation : Derivation, derivation.tokens = (Tokens.ofString keywordNames).tokens) ∧
      ∃ found, declarations keywordNames = .ok found ∧
        ∃ derivation : Derivation, derivation.tokens = (Tokens.ofString keywordNames).tokens ∧
          derivation.Spells found := by
  have tokenizes : (Tokens.ofString keywordNames).stopped? = none := by decide +kernel
  have isAccepted : (declarations keywordNames).toOption.isSome = true := by decide +kernel
  have someFound : ∃ found, declarations keywordNames = .ok found := by
    cases read : declarations keywordNames with
    | error mismatch => simp [read, Except.toOption] at isAccepted
    | ok found => exact ⟨found, rfl⟩
  rcases someFound with ⟨found, accepted⟩
  have derives := ((accepts_iff_derives keywordNames).1 tokenizes).1 ⟨found, accepted⟩
  rcases derives with ⟨derivation, sameTokens⟩
  exact ⟨tokenizes, ⟨derivation, sameTokens⟩, found, accepted, derivation, sameTokens,
    ((accepts_iff_derives keywordNames).2.1 found accepted).2 derivation sameTokens⟩

end Schemagram.Strict
