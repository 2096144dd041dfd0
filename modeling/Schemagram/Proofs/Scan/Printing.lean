import Schemagram.Proofs.Scan.Writing

/-!
# A text of a form

Of the texts of a form one can be computed, with no more white space than is needed.  What is
computed for the parts makes a text of the whole.
-/

namespace Schemagram.Writing

open Text
open Language (append_mem_mul)

variable {text : List Char} {language : Language Char}

theorem mem_blanks_mul (written : text ∈ language) : text ∈ blanks * language :=
  append_mem_mul nil_mem_blanks written

theorem mem_mul_blanks (written : text ∈ language) : text ∈ language * blanks := by
  have behind := append_mem_mul written nil_mem_blanks
  rwa [List.append_nil] at behind

theorem singleton_mem_mark (char : Char) : [char] ∈ mark char := mem_mark.2 rfl

theorem toList_mem_exactly (name : String) : name.toList ∈ exactly name.toList := mem_exactly.2 rfl

theorem toList_mem_keyword (name : String) : name.toList ∈ keyword name := mem_keyword.2 rfl

theorem space_mem_blank : [' '] ∈ blank := ⟨by simp, by simp [isSpace]⟩

theorem space_mem_blanks : [' '] ∈ blanks := space_mem_blank.2

theorem lineEnd_mem_blank : ['\n'] ∈ blank := ⟨by simp, by simp [isSpace]⟩

/-- What is printed for the items makes a text of a sequence of them, when the separator is one of
it. -/
theorem join_mem {Item : Type} {sequence : List (Language Char) → Language Char}
    {separator : List Char} (single : ∀ {item text}, text ∈ item → text ∈ sequence [item])
    (cons : ∀ {item second more text rest}, text ∈ item → rest ∈ sequence (second :: more) →
      text ++ separator ++ rest ∈ sequence (item :: second :: more))
    {items : List Item} (empty : items = [] → [] ∈ sequence []) {language : Item → Language Char}
    {print : Item → List Char} (prints : ∀ item ∈ items, print item ∈ language item) :
    join separator (items.map print) ∈ sequence (items.map language) := by
  induction items with
  | nil => exact empty rfl
  | cons first more ih =>
    have isFirst := prints first List.mem_cons_self
    cases more with
    | nil => exact single isFirst
    | cons second more =>
      apply cons isFirst
      exact ih (by simp) fun item mem => prints item (List.mem_cons_of_mem first mem)

theorem join_mem_listed {Item : Type} {language : Item → Language Char} {print : Item → List Char}
    {items : List Item} (nonempty : items ≠ [])
    (prints : ∀ item ∈ items, print item ∈ language item) :
    join [','] (items.map print) ∈ listed (items.map language) := by
  apply join_mem (fun written => mem_blanks_mul (mem_mul_blanks written)) _
    (absurd · nonempty) prints
  intro item second more text rest written isRest
  have behind := mem_blanks_mul (append_mem_mul (singleton_mem_mark ',') isRest)
  have whole := mem_blanks_mul (append_mem_mul written behind)
  rw [← List.append_assoc] at whole
  exact whole

end Schemagram.Writing
