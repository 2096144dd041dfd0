import Schemagram.Proofs.Shorthand.Lines

/-!
# References are found in shorthand

The arrows of a block stand behind colons, so that blocks are passed over as a whole.  What stands
before a reference is then white space only, which belongs to the reference when no word introduces
it.
-/

namespace Schemagram.Shorthand

open Text Writing Blocks
open Scan hiding keyword mark

variable {text rest : List Char}

/-! ### The word before a reference -/

theorem exists_of_introduction {word : List Char}
    (written : word ∈ keyword "ref:" + keyword "fk:") :
    ∃ letters, word = letters ++ [':'] ∧ ∀ char ∈ letters, isWord char = true := by
  have isSpelling : IsSpelling "ref:" word ∨ IsSpelling "fk:" word :=
    written.imp isSpelling_of_keyword isSpelling_of_keyword
  rcases isIntroduction_of_isSpelling isSpelling with rfl | isWord
  · rcases written with empty | empty <;> cases empty
  · exact isWord

theorem introduction_append {word : List Char} (written : word ∈ keyword "ref:" + keyword "fk:")
    (rest : List Char) : introduction (word ++ rest) = some ((), rest) := by
  apply orElse_eq_some.2 (.inl _)
  rw [orElse_eq_some]
  rcases written with isRef | isKey
  · exact .inl (keyword_append isRef rest)
  · exact .inr ⟨keyword_append_eq_none 0 'r' 'f' (by decide) (by decide) (by decide) (by decide)
      isKey rest,
      keyword_append isKey rest⟩

/-- Where a dotted column stands there is no word that introduces it. -/
theorem introduction_dotted {gap name : List Char} (isGap : gap ∈ blanks) (named : IsWord name)
    (more : List Char) :
    introduction (gap ++ (name ++ '.' :: more)) = some ((), gap ++ (name ++ '.' :: more)) := by
  rcases optionally_eq_some (Scan.keyword "ref:" <|> Scan.keyword "fk:")
    (gap ++ (name ++ '.' :: more))
    with ⟨after, read⟩
  rcases introduction_eq_some read with ⟨word, split, isIntroduction⟩
  rcases isIntroduction with rfl | ⟨letters, rfl, inWord⟩
  · rw [introduction, read, split]
    rfl
  · -- The colon would stand before the dot, in the white space or in the name.
    have noColon : ':' ∉ gap ++ name := by
      rw [List.mem_append, not_or]
      exact ⟨not_mem_of_run isGap (by decide), not_mem_of_run named.2 (by decide)⟩
    have parts : (gap ++ name) ++ '.' :: more = letters ++ ':' :: after := by
      simpa using split
    exact absurd parts (append_cons_ne (by decide) noColon (not_mem_of_run inWord (by decide)))

/-- No reference begins in the white space before a word that introduces one. -/
theorem reference_eq_none_of_blanks {gap word : List Char} (isGap : gap ∈ blanks)
    (nonempty : gap ≠ []) (written : word ∈ keyword "ref:" + keyword "fk:") (rest : List Char) :
    reference (gap ++ (word ++ rest)) = none := by
  rcases exists_of_introduction written with ⟨letters, rfl, inWord⟩
  have noColon : ':' ∉ gap ++ letters := by
    rw [List.mem_append, not_or]
    exact ⟨not_mem_of_run isGap (by decide), not_mem_of_run inWord (by decide)⟩
  rw [Option.eq_none_iff_forall_ne_some]
  rintro ⟨found, left⟩ read
  rcases exists_of_reference read with
    ⟨other, before, table, column, between, sign, after, split, isOther, isBefore, isTable, _⟩
  rcases isOther with rfl | ⟨otherLetters, rfl, inOther⟩
  · -- The dot of the column would stand before the colon.
    have noColonBefore : ':' ∉ before ++ table := by
      rw [List.mem_append, not_or]
      exact ⟨not_mem_of_run isBefore (by decide), not_mem_of_run isTable.2 (by decide)⟩
    have noDot : '.' ∉ gap ++ letters := by
      rw [List.mem_append, not_or]
      exact ⟨not_mem_of_run isGap (by decide), not_mem_of_run inWord (by decide)⟩
    have parts : (gap ++ letters) ++ ':' :: rest =
        (before ++ table) ++ '.' :: (column ++ (between ++ sign :: after)) := by
      simpa using split
    exact append_cons_ne (by decide) noDot noColonBefore parts
  · -- The word before the colon would begin with white space.
    have noColonOther : ':' ∉ otherLetters := not_mem_of_run inOther (by decide)
    have parts : (gap ++ letters) ++ ':' :: rest =
        otherLetters ++ ':' ::
        (before ++ (table ++ '.' :: (column ++ (between ++ sign :: after)))) := by
      simpa using split
    rw [← (append_cons_inj noColon noColonOther parts).1] at inOther
    rcases List.exists_mem_of_ne_nil gap nonempty with ⟨char, mem⟩
    have isIn := inOther char (List.mem_append_left letters mem)
    rw [isWord_of_isSpace (isGap char mem)] at isIn
    cases isIn

/-! ### References -/

/-- Two dotted columns with an arrow between them are read once the introduction has been taken. -/
theorem reference_of_introduction {left right : String × String} {sign : Char}
    (isLeft : IsWord left.1.toList ∧ IsWord left.2.toList)
    (isRight : IsWord right.1.toList ∧ IsWord right.2.toList) (isArrow : sign ∈ arrows)
    {gap part : List Char} (isGap : gap ∈ blanks)
    (written : part ∈ writtenArrow (writtenDotted left.1 left.2) sign
      (writtenDotted right.1 right.2))
    (ends : Ends isWord rest) (introduced : introduction text = some ((), gap ++ (part ++ rest))) :
    reference text = some (⟨left, sign, right⟩, rest) := by
  rcases Language.mem_mul.1 written with ⟨source, isSource, _, behindSource, rfl⟩
  rcases Language.mem_mul.1 behindSource with ⟨first, isFirst, _, behindFirst, rfl⟩
  rcases Language.mem_mul.1 behindFirst with ⟨_, rfl, _, behindArrow, rfl⟩
  rcases Language.mem_mul.1 behindArrow with ⟨second, isSecond, target, isTarget, rfl⟩
  have noSpace : isSpace sign = false := by
    have all : ∀ sign ∈ arrows, isSpace sign = false := by decide
    exact all sign isArrow
  have noWord : isWord sign = false := by
    have all : ∀ sign ∈ arrows, isWord sign = false := by decide
    exact all sign isArrow
  have isOne : (sign = '<' || sign = '>') = true := by
    have all : ∀ sign ∈ arrows, (sign = '<' || sign = '>') = true := by decide
    exact all sign isArrow
  simp only [List.append_assoc, List.cons_append, List.nil_append] at introduced
  simp only [reference, bind_eq_some, pure_eq_some]
  exact ⟨(), _, introduced, (), _, spaces_append isGap (ends_writtenDotted isLeft.1 isSource), left,
    _,
    dotted_append isLeft.1 isLeft.2 isSource
      (ends_blanks (fun _ => isWord_of_isSpace) isFirst (ends_cons.2 noWord)),
    (), _, spaces_append isFirst (ends_cons.2 noSpace), sign, _, one_eq_some.2 ⟨rfl, isOne⟩, (), _,
    spaces_append isSecond (ends_writtenDotted isRight.1 isTarget), right, rest,
    dotted_append isRight.1 isRight.2 isTarget ends, rfl, rfl⟩

theorem exists_of_writtenArrow {table column : String} (named : IsWord table.toList) {sign : Char}
    {target : Language Char} {part : List Char}
    (written : part ∈ writtenArrow (writtenDotted table column) sign target) :
    ∃ name more, part = name ++ '.' :: more ∧ IsWord name := by
  rcases Language.mem_mul.1 written with ⟨_, isDotted, after, _, rfl⟩
  rcases Language.mem_mul.1 isDotted with ⟨_, rfl, _, behindName, rfl⟩
  rcases Language.mem_mul.1 behindName with ⟨_, rfl, last, _, rfl⟩
  exact ⟨table.toList, last ++ after, by simp, named⟩

/-- From either side, a reference is read as the key that it says. -/
theorem reference_append {owner : String} {key : ForeignKey} (isOwner : IsWord owner.toList)
    (isReference : IsReference relations key) {part : List Char}
    (written : part ∈ writtenArrow (writtenDotted owner key.column) '>'
        (writtenDotted key.referenceTable key.referenceColumn) +
      writtenArrow (writtenDotted key.referenceTable key.referenceColumn) '<'
      (writtenDotted owner key.column))
    (ends : Ends isWord rest) :
    (∃ name more, part = name ++ '.' :: more ∧ IsWord name) ∧
      ∃ found : Reference, found.source.1 = owner ∧ found.key = key ∧
        ∀ text, ∀ gap ∈ blanks, introduction text = some ((), gap ++ (part ++ rest)) →
          reference text = some (found, rest) := by
  have relation : key.relation? = some .oneToMany := by
    rcases isReference.relation with ⟨relation, isRelation, same⟩
    rw [same, List.mem_singleton.1 isRelation]
  have sameKey : ForeignKey.mk key.column key.referenceTable key.referenceColumn
      (some .oneToMany) = key := by
    rw [← relation]
  have source := And.intro isOwner isReference.column
  have target := And.intro isReference.table isReference.referenced
  rcases written with written | written
  · refine ⟨exists_of_writtenArrow isOwner written, ⟨(owner, key.column), '>', (_, _)⟩, rfl,
      sameKey, ?_⟩
    intro text gap isGap introduced
    exact reference_of_introduction source target (by decide) isGap written ends introduced
  · refine ⟨exists_of_writtenArrow isReference.table written, ⟨(_, _), '<', (owner, key.column)⟩,
      rfl, sameKey, ?_⟩
    intro text gap isGap introduced
    exact reference_of_introduction target source (by decide) isGap written ends introduced

/-- A reference is found behind white space, which belongs to it unless a word introduces it. -/
theorem finds_reference {owner : String} {key : ForeignKey} (isOwner : IsWord owner.toList)
    (isReference : IsReference relations key) :
    Finds reference (fun found => (found.source.1, found.key)) (· ∈ blanks)
    (writtenReference owner key)
      (some (owner, key)) := by
  intro front text rest isFront written ends
  rcases Language.mem_mul.1 written with ⟨word, isWord, part, isPart, rfl⟩
  rcases reference_append isOwner isReference isPart ends with
    ⟨⟨name, more, same, named⟩, found, sameOwner, sameKey, reads⟩
  have positive : 0 < part.length := by
    rw [same, List.length_append, List.length_cons]
    omega
  refine ⟨[], nil_mem_blanks, ?_⟩
  rcases isWord with none | introduced
  · rw [(Language.mem_one word).1 none, List.nil_append]
    have noWord : introduction (front ++ (part ++ rest)) = some ((), front ++ (part ++ rest)) := by
      have taken := introduction_dotted isFront named (more ++ rest)
      rw [same, List.append_assoc]
      exact taken
    rw [all_of_some (reads _ front isFront noWord), List.map_cons, sameOwner, sameKey]
    · rfl
    · simp only [List.length_append]
      omega
  · rcases Language.mem_mul.1 introduced with ⟨word, isIntroduction, gap, isGap, rfl⟩
    simp only [List.append_assoc]
    rw [all_append_of_none, all_of_some (reads _ gap isGap (introduction_append isIntroduction _)),
      List.map_cons, sameOwner, sameKey]
    · rfl
    · simp only [List.length_append]
      omega
    · intro suffix isSuffix nonempty
      exact reference_eq_none_of_blanks (fun char mem => isFront char (isSuffix.subset mem))
        nonempty isIntroduction _

/-- No reference stands in a text without a dot. -/
theorem all_reference_eq_nil (noDot : '.' ∉ text) : all reference text = [] := by
  apply all_eq_nil
  intro suffix isSuffix
  rw [Option.eq_none_iff_forall_ne_some]
  rintro ⟨found, left⟩ read
  rcases exists_of_reference read with ⟨_, _, _, _, _, _, _, rfl, _⟩
  exact noDot (isSuffix.subset (by simp))

theorem all_reference_blanks (isBlank : text ∈ blanks) : all reference text = [] :=
  all_reference_eq_nil (not_mem_of_run isBlank (by decide))

/-! ### Blocks -/

/-- A block whose arrows stand behind colons is passed over. -/
theorem finds_of_guarded {Value : Type} {read : Reference → Value} {opening inside : Language Char}
    {name : String} (guarded : Guarded (writtenBlock opening name inside)) :
    Finds reference read (· ∈ blanks) (writtenBlock opening name inside) none := by
  intro front text rest isFront written _
  have isGuarded : IsGuarded (front ++ text) :=
    (guarded_of_free (free_blanks (by decide)) front isFront).append (guarded text written)
  rcases exists_of_mem_writtenBlock written with ⟨opening, _, gap, _, between, _, body, _, same⟩
  have closed : ∃ before, front ++ text = before ++ ['\x7d'] := by
    refine ⟨front ++ ((opening ++ (gap ++ (name.toList ++ between))) ++ '\x7b' :: body), ?_⟩
    rw [same]
    simp
  rcases closed with ⟨before, split⟩
  rw [split] at isGuarded
  refine ⟨[], nil_mem_blanks, ?_⟩
  rw [← List.append_assoc, split, all_append_of_none]
  · rfl
  · intro suffix isSuffix nonempty
    rcases List.suffix_concat_iff.1 isSuffix with rfl | ⟨part, rfl, start, rfl⟩
    · exact absurd rfl nonempty
    · rw [List.append_assoc] at isGuarded ⊢
      exact reference_eq_none isGuarded rest

theorem guarded_block {opening inside : Language Char} {name : String} (isOpening : Guarded opening)
    (named : IsWord name.toList) (isInside : Guarded inside) :
    Guarded (writtenBlock opening name inside) := by
  have spaces : Guarded blanks := guarded_of_free (free_blanks (by decide))
  have brace {char : Char} (noArrow : char ∉ arrows) : Guarded (mark char) :=
    guarded_of_free (free_mark noArrow)
  have first := brace (by decide : '\x7b' ∉ arrows)
  have last := brace (by decide : '\x7d' ∉ arrows)
  have body := spaces.mul (first.mul (isInside.mul last))
  have nameOnly : Guarded (exactly name.toList) := guarded_of_free (free_word (by decide) named)
  exact isOpening.mul ((guarded_of_free (free_blank (by decide))).mul (nameOnly.mul body))

theorem guarded_lines {table : Table} (isTable : IsTable HasOneSize relations table) :
    Guarded (writtenLines table) := by
  rintro text ⟨lines, sameColumns, sameKeys, written⟩
  have areReadable := isTable.isReadable_lines sameColumns sameKeys
  apply onLines_of_mul Guarded.mul (guarded_of_free (free_blanks (by decide)))
    (guarded_of_free (free_mark (by decide))) _ text written
  intro language mem
  rcases List.mem_map.1 mem with ⟨line, memLines, rfl⟩
  exact guarded_line (areReadable line memLines)

end Schemagram.Shorthand
