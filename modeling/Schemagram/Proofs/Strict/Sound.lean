import Schemagram.Proofs.Strict.Derivation
import Schemagram.Proofs.Strict.Lexemes
import Schemagram.Proofs.Strict.Resolution

/-!
# What holds of every strict table

Whatever the text, the names of tables and columns are words, a type is written without any other
characters than those of words and the marks around sizes, and a column refers to two words with a
dot between them.  Only notes and the members of enums are written freely.
-/

namespace Schemagram.Strict

open Text

/-- Two words with a dot between them. -/
def IsDotted (text : List Char) : Prop := ∃ table column, IsWord table ∧ IsWord column ∧
    text = table ++ '.' :: column

/-- A column in which only the note and the members are free. -/
structure Column.Sound (column : Column) : Prop where
  name : IsWord column.name.toList
  type : ∀ char ∈ column.type.toList, isWord char = true ∨ char ∈ ['(', ',', ')']
  foreignKey : ∀ target ∈ column.foreignKey?, IsDotted target.toList

/-- A table in which only notes and members are free. -/
structure Table.Sound (table : Table) : Prop where
  name : IsWord table.name.toList
  short : ∀ short ∈ table.alias?, IsWord short.toList
  columns : ∀ column ∈ table.columns, column.Sound

theorem PathPhrase.isDotted (phrase : PathPhrase) : IsDotted phrase.text.toList := by
  refine ⟨_, _, Token.isWord_text phrase.table.2, Token.isWord_text phrase.column.2, ?_⟩
  simp [text]

theorem ArrowPhrase.isDotted_target (arrow : ArrowPhrase) (name : String) {left right : String}
    (isLeft : IsDotted left.toList) (isRight : IsDotted right.toList) :
    IsDotted (arrow.reference name left right).target.toList := by
  cases arrow with
  | left mark => exact isRight
  | right mark => exact isLeft

/-- Every reference of a derivation leads to a dotted path. -/
theorem Derivation.isDotted_target {derivation : Derivation} {reference : Reference}
    (mem : reference ∈ derivation.references) : IsDotted reference.target.toList := by
  rcases List.mem_flatMap.1 mem with ⟨declaration, _, isReference⟩
  cases declaration with
  | table phrase =>
    rcases List.mem_flatMap.1 isReference with ⟨column, _, inColumn⟩
    rcases List.mem_filterMap.1 inColumn with ⟨property, _, isProperty⟩
    cases property with
    | reference keyword colon arrow other =>
      cases isProperty
      refine arrow.isDotted_target "" ?_ other.isDotted
      refine ⟨_, _, Token.isWord_text phrase.name.2, Token.isWord_text column.name.2, ?_⟩
      simp
    | _ => cases isProperty
  | enum phrase => cases isReference
  | reference phrase =>
    rw [List.mem_singleton.1 isReference]
    exact phrase.arrow.isDotted_target _ phrase.left.isDotted phrase.right.isDotted

theorem TypePhrase.chars (phrase : TypePhrase) :
    ∀ char ∈ phrase.text.toList, isWord char = true ∨ char ∈ ['(', ',', ')'] := by
  have inWord (word : Token) (isWordKind : word.kind = .word) :
      ∀ char ∈ word.text.toList, isWord char = true ∨ char ∈ ['(', ',', ')'] :=
    fun char mem => .inl ((Token.isWord_text isWordKind).2 char mem)
  rcases phrase with ⟨base, sizes?⟩
  rw [text, String.toList_append, List.forall_mem_append]
  refine ⟨inWord base.1 base.2, ?_⟩
  cases sizes? with
  | none => exact List.forall_mem_nil _
  | some sizes =>
    rcases sizes with ⟨opening, first, second?, closing⟩
    simp only [Option.elim_some, SizesPhrase.text, String.toList_append, List.forall_mem_append]
    refine ⟨⟨⟨by decide, inWord first.1 first.2.1⟩, ?_⟩, by decide⟩
    cases second? with
    | none => exact List.forall_mem_nil _
    | some second =>
      rw [Option.elim_some, String.toList_append, List.forall_mem_append]
      exact ⟨by decide, inWord second.2.1 second.2.2.1⟩

theorem Table.sound_of_derivation {derivation : Derivation} {table : Table}
    (mem : table ∈ derivation.tables) :
    table.Sound := by
  rcases List.mem_filterMap.1 mem with ⟨declaration, _, isTable⟩
  cases declaration with
  | table phrase =>
    cases isTable
    refine ⟨Token.isWord_text phrase.name.2, ?_, ?_⟩
    · intro short isShort
      rcases Option.map_eq_some_iff.1 isShort with ⟨second, _, rfl⟩
      exact Token.isWord_text second.2.2
    · refine List.forall_mem_map.2 fun column _ =>
        ⟨Token.isWord_text column.name.2, column.type.chars, ?_⟩
      rintro _ ⟨⟩
  | enum phrase => cases isTable
  | reference phrase => cases isTable

/-- Binding keeps all forms, since it writes nothing but targets of references. -/
theorem Column.Sound.bound {column : Column} (sound : column.Sound) {references : List Reference}
    (dotted : ∀ reference ∈ references, IsDotted reference.target.toList) :
    (column.bound references).Sound := by
  refine ⟨sound.name, sound.type, fun target isTarget => ?_⟩
  rw [Column.bound, Option.mem_def, Option.or_eq_some_iff] at isTarget
  rcases isTarget with written | ⟨_, kept⟩
  · rcases Option.map_eq_some_iff.1 written with ⟨reference, isLast, rfl⟩
    exact dotted reference (List.mem_of_getLast? isLast)
  · exact sound.foreignKey target kept

theorem Column.Sound.withEnum {column : Column} (sound : column.Sound) (enums : Enums) :
    (column.withEnum enums).Sound := by
  unfold Column.withEnum
  split
  · exact ⟨sound.name, sound.type, sound.foreignKey⟩
  · exact sound

/-- What holds of the tables of every text that matches the grammar. -/
theorem parse?_sound {text : String} {tables : List Table}
    (read : (parse? text).result = some tables) :
    ∀ table ∈ tables, table.Sound := by
  have isAccepted : ∃ found, declarations text = .ok found := by
    by_contra refused
    rw [parse?_eq_none.2 refused] at read
    cases read
  rcases isAccepted with ⟨found, accepted⟩
  rw [result_parse? accepted, Option.some.injEq, result_tablesOf] at read
  subst read
  rcases (declarations_eq_ok.1 accepted).2 with ⟨derivation, rfl, _⟩
  rw [derivation.spells.tables, derivation.spells.references]
  intro table mem
  rcases List.mem_mapIdx.1 mem with ⟨index, bound, rfl⟩
  have sound := Table.sound_of_derivation (List.getElem_mem bound)
  refine ⟨sound.name, sound.short, fun column memColumn => ?_⟩
  rcases List.mem_mapIdx.1 memColumn with ⟨place, inside, rfl⟩
  refine ((sound.columns _ (List.getElem_mem inside)).bound fun reference collected => ?_).withEnum
    _
  exact Derivation.isDotted_target (List.mem_of_mem_filter collected)

end Schemagram.Strict
