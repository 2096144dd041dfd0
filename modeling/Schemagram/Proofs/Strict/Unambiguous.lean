import Schemagram.Proofs.Strict.Reading

/-!
# The strict grammar is unambiguous

Two phrases of one kind whose tokens begin the same token list are equal, provided that neither of
them goes on behind its last token.  The places of a phrase are told apart from left to right: by
the keyword of a property or a declaration, by the mark behind an optional part, and by the kind of
the next token where a word may stand in place of a mark.  So a token list has at most one
derivation.
-/

namespace Schemagram.Strict

open Grammar Rule

theorem Mark.ne {text other : String} (mark : Mark text) (otherMark : Mark other)
    (different : text ≠ other) : mark.1 ≠ otherMark.1 := by
  intro equal
  have isOther := Token.isMark_eq_false_of_ne mark.2 other different
  rw [equal, otherMark.2] at isOther
  cases isOther

theorem Mark.ne_word {text : String} (mark : Mark text) (word : Word)
    (foreign : text.toList.any (fun char => !Text.isWord char) = true) : mark.1 ≠ word.1 := by
  intro equal
  have isMark := Token.isMark_eq_false_of_word word.2 text foreign
  rw [← equal, mark.2] at isMark
  cases isMark

namespace PathPhrase

theorem unambiguous {phrase other : PathPhrase} {rest after : List Token}
    (same : phrase.tokens ++ rest = other.tokens ++ after) : phrase = other ∧ rest = after := by
  rcases phrase with ⟨table, dot, column⟩
  rcases other with ⟨otherTable, otherDot, otherColumn⟩
  simp only [tokens, List.cons_append, List.nil_append, List.cons.injEq] at same
  rcases same with ⟨sameTable, sameDot, sameColumn, sameRest⟩
  rw [Subtype.ext sameTable, Subtype.ext sameDot, Subtype.ext sameColumn]
  exact ⟨rfl, sameRest⟩

end PathPhrase

namespace ArrowPhrase

theorem unambiguous {phrase other : ArrowPhrase} (same : phrase.token = other.token) :
    phrase = other := by
  cases phrase with
  | left mark =>
    cases other with
    | left otherMark => rw [Subtype.ext same]
    | right otherMark => exact absurd same (Mark.ne mark otherMark (by decide))
  | right mark =>
    cases other with
    | left otherMark => exact absurd same (Mark.ne mark otherMark (by decide))
    | right otherMark => rw [Subtype.ext same]

end ArrowPhrase

namespace SizesPhrase

theorem unambiguous {phrase other : SizesPhrase} {rest after : List Token}
    (same : phrase.tokens ++ rest = other.tokens ++ after) : phrase = other ∧ rest = after := by
  rcases phrase with ⟨opening, first, second?, closing⟩
  rcases other with ⟨otherOpening, otherFirst, otherSecond?, otherClosing⟩
  simp only [tokens, List.cons_append, List.cons.injEq] at same
  rcases same with ⟨sameOpening, sameFirst, same⟩
  rw [Subtype.ext sameOpening, Subtype.ext sameFirst]
  cases second? with
  | none =>
    cases otherSecond? with
    | none =>
      rcases List.cons.inj same with ⟨sameClosing, sameRest⟩
      rw [Subtype.ext sameClosing]
      exact ⟨rfl, sameRest⟩
    | some otherSecond =>
      exact absurd (List.cons.inj same).1 (Mark.ne closing otherSecond.1 (by decide))
  | some second =>
    cases otherSecond? with
    | none => exact absurd (List.cons.inj same).1 (Mark.ne second.1 otherClosing (by decide))
    | some otherSecond =>
      rcases second with ⟨comma, size⟩
      rcases otherSecond with ⟨otherComma, otherSize⟩
      simp only [Option.elim_some, List.cons_append, List.nil_append, List.cons.injEq] at same
      rcases same with ⟨sameComma, sameSize, sameClosing, sameRest⟩
      rw [Subtype.ext sameComma, Subtype.ext sameSize, Subtype.ext sameClosing]
      exact ⟨rfl, sameRest⟩

end SizesPhrase

namespace TypePhrase

theorem unambiguous {phrase other : TypePhrase} {rest after : List Token}
    (ends : phrase.sizes? = none → startsWith "(" rest = false)
    (otherEnds : other.sizes? = none → startsWith "(" after = false)
    (same : phrase.tokens ++ rest = other.tokens ++ after) : phrase = other ∧ rest = after := by
  rcases phrase with ⟨base, sizes?⟩
  rcases other with ⟨otherBase, otherSizes?⟩
  simp only [tokens, List.cons_append, List.cons.injEq] at same
  rcases same with ⟨sameBase, same⟩
  rw [Subtype.ext sameBase]
  cases sizes? with
  | none =>
    cases otherSizes? with
    | none => exact ⟨rfl, same⟩
    | some otherSizes =>
      have opens : startsWith "(" rest = true := by
        rw [show rest = otherSizes.tokens ++ after from same]
        exact otherSizes.opening.2
      rw [ends rfl] at opens
      cases opens
  | some sizes =>
    cases otherSizes? with
    | none =>
      have opens : startsWith "(" after = true := by
        rw [show after = sizes.tokens ++ rest from same.symm]
        exact sizes.opening.2
      rw [otherEnds rfl] at opens
      cases opens
    | some otherSizes =>
      rcases SizesPhrase.unambiguous same with ⟨rfl, sameRest⟩
      exact ⟨rfl, sameRest⟩

end TypePhrase

namespace PropertyPhrase

theorem unambiguous {phrase other : PropertyPhrase} {rest after : List Token}
    (same : phrase.tokens ++ rest = other.tokens ++ after) : phrase = other ∧ rest = after := by
  cases phrase <;> cases other
  case primaryKey.primaryKey | notNull.notNull =>
    rcases List.cons.inj same with ⟨sameKeyword, sameRest⟩
    rw [Subtype.ext sameKeyword]
    exact ⟨rfl, sameRest⟩
  case note.note =>
    simp only [tokens, List.cons_append, List.nil_append, List.cons.injEq] at same
    rcases same with ⟨sameKeyword, sameColon, sameText, sameRest⟩
    rw [Subtype.ext sameKeyword, Subtype.ext sameColon, Subtype.ext sameText]
    exact ⟨rfl, sameRest⟩
  case reference.reference =>
    simp only [tokens, List.cons_append, List.cons.injEq] at same
    rcases same with ⟨sameKeyword, sameColon, sameArrow, same⟩
    rcases PathPhrase.unambiguous same with ⟨rfl, sameRest⟩
    rw [Subtype.ext sameKeyword, Subtype.ext sameColon, ArrowPhrase.unambiguous sameArrow]
    exact ⟨rfl, sameRest⟩
  -- properties of different kinds begin with different keywords
  all_goals exact absurd (List.cons.inj same).1 (Mark.ne _ _ (by decide))

theorem unambiguous_afterComma {further other : Mark "," × PropertyPhrase} {rest after : List Token}
    (same : tokensAfterComma further ++ rest = tokensAfterComma other ++ after) :
    further = other ∧ rest = after := by
  rcases further with ⟨comma, phrase⟩
  rcases other with ⟨otherComma, otherPhrase⟩
  simp only [tokensAfterComma, List.cons_append, List.cons.injEq] at same
  rcases same with ⟨sameComma, same⟩
  rcases unambiguous same with ⟨rfl, sameRest⟩
  rw [Subtype.ext sameComma]
  exact ⟨rfl, sameRest⟩

end PropertyPhrase

/-- Where single phrases are told apart, so are lists of them. -/
theorem Rule.Repeats.unambiguous {Part Phrase : Type} {stops : List Token → Bool}
    {tokensOf : Phrase → List Token} {partOf : Phrase → Part}
    {fits : List Part → Phrase → List Token → Prop}
    (each : ∀ before phrase other rest after, fits before phrase rest → fits before other after →
      tokensOf phrase ++ rest = tokensOf other ++ after → phrase = other ∧ rest = after)
    {before : List Part} {phrases others : List Phrase} {rest after : List Token}
    (repeats : Repeats stops tokensOf partOf fits before phrases rest)
    (otherRepeats : Repeats stops tokensOf partOf fits before others after)
    (same : phrases.flatMap tokensOf ++ rest = others.flatMap tokensOf ++ after) :
    phrases = others ∧ rest = after := by
  induction phrases generalizing before others with
  | nil =>
    cases others with
    | nil => exact ⟨rfl, same⟩
    | cons other more =>
      have goesOn := otherRepeats.1
      rw [List.flatMap_cons, List.append_assoc] at same
      rw [← same] at goesOn
      have stop : stops rest = true := repeats
      simp [stop] at goesOn
  | cons phrase more ih =>
    cases others with
    | nil =>
      have goesOn := repeats.1
      rw [List.flatMap_cons, List.append_assoc] at same
      rw [same] at goesOn
      have stop : stops after = true := otherRepeats
      simp [stop] at goesOn
    | cons other otherMore =>
      rcases repeats with ⟨_, fits, moreRepeats⟩
      rcases otherRepeats with ⟨_, otherFits, otherMoreRepeats⟩
      rw [List.flatMap_cons, List.flatMap_cons, List.append_assoc, List.append_assoc] at same
      rcases each before phrase other _ _ fits otherFits same with ⟨rfl, sameMore⟩
      rcases ih moreRepeats otherMoreRepeats sameMore with ⟨rfl, sameRest⟩
      exact ⟨rfl, sameRest⟩

namespace PropertiesPhrase

theorem unambiguous {phrase other : PropertiesPhrase} {rest after : List Token}
    (same : phrase.tokens ++ rest = other.tokens ++ after) : phrase = other ∧ rest = after := by
  rcases phrase with ⟨opening, first, more, closing⟩
  rcases other with ⟨otherOpening, otherFirst, otherMore, otherClosing⟩
  simp only [tokens, List.cons_append, List.append_assoc, List.nil_append, List.cons.injEq] at same
  rcases same with ⟨sameOpening, same⟩
  rcases PropertyPhrase.unambiguous same with ⟨rfl, sameMore⟩
  have sameRepeats := Repeats.unambiguous
    (fun _ _ _ _ _ _ _ same => PropertyPhrase.unambiguous_afterComma same)
    (repeats_properties closing rest [] more)
      (repeats_properties otherClosing after [] otherMore) sameMore
  rcases sameRepeats with
    ⟨rfl, sameEnd⟩
  rcases List.cons.inj sameEnd with ⟨sameClosing, sameRest⟩
  rw [Subtype.ext sameOpening, Subtype.ext sameClosing]
  exact ⟨rfl, sameRest⟩

end PropertiesPhrase

namespace ColumnPhrase

/-- Whatever follows a column, its type ends where its properties begin or where it ends itself. -/
theorem EndsBefore.type {phrase : ColumnPhrase} {rest : List Token} (ends : phrase.EndsBefore rest)
    (bare : phrase.type.sizes? = none) :
    startsWith "(" (phrase.properties?.elim [] PropertiesPhrase.tokens ++ rest) = false := by
  cases properties : phrase.properties? with
  | none => exact ends.1 properties bare
  | some found => exact Token.isMark_eq_false_of_ne found.opening.2 _ (by decide)

theorem unambiguous {phrase other : ColumnPhrase} {rest after : List Token}
    (ends : phrase.EndsBefore rest) (otherEnds : other.EndsBefore after)
    (same : phrase.tokens ++ rest = other.tokens ++ after) : phrase = other ∧ rest = after := by
  have typeEnds := ends.type
  have otherTypeEnds := otherEnds.type
  rcases phrase with ⟨name, type, properties?⟩
  rcases other with ⟨otherName, otherType, otherProperties?⟩
  simp only [tokens, List.cons_append, List.append_assoc, List.cons.injEq] at same
  rcases same with ⟨sameName, same⟩
  rcases TypePhrase.unambiguous typeEnds otherTypeEnds same with ⟨rfl, sameProperties⟩
  rw [Subtype.ext sameName]
  cases properties? with
  | none =>
    cases otherProperties? with
    | none => exact ⟨rfl, sameProperties⟩
    | some otherProperties =>
      have opens : startsWith "[" rest = true := by
        rw [show rest = otherProperties.tokens ++ after from sameProperties]
        exact otherProperties.opening.2
      rw [ends.2 rfl] at opens
      cases opens
  | some properties =>
    cases otherProperties? with
    | none =>
      have opens : startsWith "[" after = true := by
        rw [show after = properties.tokens ++ rest from sameProperties.symm]
        exact properties.opening.2
      rw [otherEnds.2 rfl] at opens
      cases opens
    | some otherProperties =>
      rcases PropertiesPhrase.unambiguous sameProperties with ⟨rfl, sameRest⟩
      exact ⟨rfl, sameRest⟩

end ColumnPhrase

namespace EntryPhrase

/-- A note is told from a column by its colon, which stands where a column has its type. -/
theorem note_ne_column (note : NotePhrase) (column : ColumnPhrase) (rest after : List Token) :
    note.tokens ++ rest ≠ column.tokens ++ after := by
  intro same
  simp only [NotePhrase.tokens, ColumnPhrase.tokens, TypePhrase.tokens, List.cons_append,
    List.cons.injEq] at same
  exact Mark.ne_word note.colon column.type.base (by decide) same.2.1

theorem unambiguous {before : List TableEntry} {phrase other : EntryPhrase}
    {rest after : List Token} (fits : phrase.Fits before rest) (otherFits : other.Fits before after)
    (same : phrase.tokens ++ rest = other.tokens ++ after) : phrase = other ∧ rest = after := by
  cases phrase with
  | note note =>
    cases other with
    | note otherNote =>
      rcases note with ⟨keyword, colon, text⟩
      rcases otherNote with ⟨otherKeyword, otherColon, otherText⟩
      simp only [tokens, NotePhrase.tokens, List.cons_append, List.nil_append,
        List.cons.injEq] at same
      rcases same with ⟨sameKeyword, sameColon, sameText, sameRest⟩
      rw [Subtype.ext sameKeyword, Subtype.ext sameColon, Subtype.ext sameText]
      exact ⟨rfl, sameRest⟩
    | column otherColumn => exact absurd same (note_ne_column note otherColumn rest after)
  | column column =>
    cases other with
    | note otherNote => exact absurd same.symm (note_ne_column otherNote column after rest)
    | column otherColumn =>
      rcases ColumnPhrase.unambiguous fits otherFits same with ⟨rfl, sameRest⟩
      exact ⟨rfl, sameRest⟩

end EntryPhrase

namespace TablePhrase

theorem repeats (phrase : TablePhrase) (rest : List Token) :
    Repeats (startsWith "\x7d") EntryPhrase.tokens EntryPhrase.entry EntryPhrase.Fits []
      phrase.entries (phrase.closing.1 :: rest) :=
  (repeats_entries phrase.closing rest phrase.entries [] (by simp)).2
    (by simpa using phrase.atMostOneNote)

theorem unambiguous {phrase other : TablePhrase} {rest after : List Token}
    (same : phrase.tokens ++ rest = other.tokens ++ after) : phrase = other ∧ rest = after := by
  have repeats := phrase.repeats rest
  have otherRepeats := other.repeats after
  rcases phrase with ⟨keyword, name, second?, opening, entries, closing, _⟩
  rcases other with ⟨otherKeyword, otherName, otherSecond?, otherOpening, otherEntries,
    otherClosing, _⟩
  simp only [tokens, List.cons_append, List.append_assoc, List.nil_append, List.cons.injEq] at same
  rcases same with ⟨sameKeyword, sameName, same⟩
  have sameSecond : second? = otherSecond? ∧
      opening.1 :: (entries.flatMap EntryPhrase.tokens ++ closing.1 :: rest) =
        otherOpening.1 :: (otherEntries.flatMap EntryPhrase.tokens ++ otherClosing.1 :: after) := by
    cases second? with
    | none =>
      cases otherSecond? with
      | none => exact ⟨rfl, same⟩
      | some otherSecond =>
        exact absurd (List.cons.inj same).1 (Mark.ne opening otherSecond.1 (by decide))
    | some second =>
      cases otherSecond? with
      | none => exact absurd (List.cons.inj same).1 (Mark.ne second.1 otherOpening (by decide))
      | some otherSecond =>
        simp only [Option.elim_some, List.cons_append, List.nil_append, List.cons.injEq] at same
        rcases same with ⟨sameAs, sameAlias, sameBody⟩
        exact ⟨congrArg some
          (Prod.ext (Subtype.ext sameAs) (Subtype.ext sameAlias)), by simpa using sameBody⟩
  rcases sameSecond with ⟨rfl, sameBody⟩
  rcases List.cons.inj sameBody with ⟨sameOpening, sameEntries⟩
  rcases Rule.Repeats.unambiguous (fun _ _ _ _ _ => EntryPhrase.unambiguous) repeats otherRepeats
    sameEntries with
    ⟨rfl, sameEnd⟩
  rcases List.cons.inj sameEnd with ⟨sameClosing, sameRest⟩
  rcases Subtype.ext sameKeyword with rfl
  rcases Subtype.ext sameName with rfl
  rcases Subtype.ext sameOpening with rfl
  rcases Subtype.ext sameClosing with rfl
  exact ⟨rfl, sameRest⟩

end TablePhrase

namespace MemberPhrase

theorem unambiguous {phrase other : MemberPhrase} {rest after : List Token}
    (ends : phrase.comma? = none → startsWith "," rest = false)
    (otherEnds : other.comma? = none → startsWith "," after = false)
    (same : phrase.tokens ++ rest = other.tokens ++ after) : phrase = other ∧ rest = after := by
  rcases phrase with ⟨value, comma?⟩
  rcases other with ⟨otherValue, otherComma?⟩
  simp only [tokens, List.cons_append, List.cons.injEq] at same
  rcases same with ⟨sameValue, same⟩
  rw [Subtype.ext sameValue]
  cases comma? with
  | none =>
    cases otherComma? with
    | none => exact ⟨rfl, same⟩
    | some otherComma =>
      have follows : startsWith "," rest = true := by
        rw [show rest = otherComma.1 :: after from same]
        exact otherComma.2
      rw [ends rfl] at follows
      cases follows
  | some comma =>
    cases otherComma? with
    | none =>
      have follows : startsWith "," after = true := by
        rw [show after = comma.1 :: rest from same.symm]
        exact comma.2
      rw [otherEnds rfl] at follows
      cases follows
    | some otherComma =>
      rcases List.cons.inj same with ⟨sameComma, sameRest⟩
      rw [Subtype.ext sameComma]
      exact ⟨rfl, sameRest⟩

end MemberPhrase

namespace EnumPhrase

theorem unambiguous {phrase other : EnumPhrase} {rest after : List Token}
    (same : phrase.tokens ++ rest = other.tokens ++ after) : phrase = other ∧ rest = after := by
  rcases phrase with ⟨keyword, name, opening, members, closing⟩
  rcases other with ⟨otherKeyword, otherName, otherOpening, otherMembers, otherClosing⟩
  simp only [tokens, List.cons_append, List.append_assoc, List.nil_append, List.cons.injEq] at same
  rcases same with ⟨sameKeyword, sameName, sameOpening, same⟩
  have sameRepeats := Repeats.unambiguous
    (fun _ _ _ _ _ ends otherEnds same => MemberPhrase.unambiguous ends otherEnds same)
    (repeats_members closing rest [] members)
      (repeats_members otherClosing after [] otherMembers) same
  rcases sameRepeats with
    ⟨rfl, sameEnd⟩
  rcases List.cons.inj sameEnd with ⟨sameClosing, sameRest⟩
  rw [Subtype.ext sameKeyword, Subtype.ext sameName, Subtype.ext sameOpening,
    Subtype.ext sameClosing]
  exact ⟨rfl, sameRest⟩

end EnumPhrase

namespace ReferencePhrase

theorem unambiguous {phrase other : ReferencePhrase} {rest after : List Token}
    (same : phrase.tokens ++ rest = other.tokens ++ after) : phrase = other ∧ rest = after := by
  rcases phrase with ⟨keyword, name?, colon, left, arrow, right⟩
  rcases other with ⟨otherKeyword, otherName?, otherColon, otherLeft, otherArrow, otherRight⟩
  simp only [tokens, List.cons_append, List.append_assoc, List.cons.injEq] at same
  rcases same with ⟨sameKeyword, same⟩
  have sameName : name? = otherName? ∧
      colon.1 :: (left.tokens ++ arrow.token :: (right.tokens ++ rest)) =
        otherColon.1 :: (otherLeft.tokens ++ otherArrow.token :: (otherRight.tokens ++ after)) := by
    cases name? with
    | none =>
      cases otherName? with
      | none => exact ⟨rfl, same⟩
      | some otherName =>
        exact absurd (List.cons.inj same).1 (Mark.ne_word colon otherName (by decide))
    | some name =>
      cases otherName? with
      | none => exact absurd (List.cons.inj same).1.symm (Mark.ne_word otherColon name (by decide))
      | some otherName =>
        rcases List.cons.inj same with ⟨sameName, sameBody⟩
        exact ⟨congrArg some (Subtype.ext sameName), sameBody⟩
  rcases sameName with ⟨rfl, sameBody⟩
  rcases List.cons.inj sameBody with ⟨sameColon, sameLeft⟩
  rcases PathPhrase.unambiguous sameLeft with ⟨rfl, sameEnd⟩
  rcases List.cons.inj sameEnd with ⟨sameArrow, sameRight⟩
  rcases PathPhrase.unambiguous sameRight with ⟨rfl, sameRest⟩
  rw [Subtype.ext sameKeyword, Subtype.ext sameColon, ArrowPhrase.unambiguous sameArrow]
  exact ⟨rfl, sameRest⟩

end ReferencePhrase

namespace DeclarationPhrase

theorem unambiguous {phrase other : DeclarationPhrase} {rest after : List Token}
    (same : phrase.tokens ++ rest = other.tokens ++ after) : phrase = other ∧ rest = after := by
  cases phrase <;> cases other
  case table.table =>
    rcases TablePhrase.unambiguous same with ⟨rfl, sameRest⟩
    exact ⟨rfl, sameRest⟩
  case enum.enum =>
    rcases EnumPhrase.unambiguous same with ⟨rfl, sameRest⟩
    exact ⟨rfl, sameRest⟩
  case reference.reference =>
    rcases ReferencePhrase.unambiguous same with ⟨rfl, sameRest⟩
    exact ⟨rfl, sameRest⟩
  -- declarations of different kinds begin with different keywords
  all_goals exact absurd (List.cons.inj same).1 (Mark.ne _ _ (by decide))

end DeclarationPhrase

/-- A token list has at most one derivation. -/
theorem Derivation.eq_of_tokens_eq {derivation other : Derivation}
    (same : derivation.tokens = other.tokens) : derivation = other := by
  have sameEnds : derivation.flatMap DeclarationPhrase.tokens ++ [] =
      other.flatMap DeclarationPhrase.tokens ++ [] := by
    simpa [Derivation.tokens] using same
  exact (Repeats.unambiguous (fun _ _ _ _ _ _ _ same => DeclarationPhrase.unambiguous same)
    (repeats_declarations [] derivation) (repeats_declarations [] other) sameEnds).1

end Schemagram.Strict
