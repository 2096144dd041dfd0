import Mathlib.Data.List.Forall2

/-!
# Steps that may fail

What the result of several steps tells of each of them, and when there is one.
-/

namespace Except

variable {Fault First Second : Type}

theorem bind_eq_ok_iff {read : Except Fault First} {next : First → Except Fault Second}
    {result : Second} :
    (read >>= next) = .ok result ↔ ∃ found, read = .ok found ∧ next found = .ok result := by
  cases read with
  | error fault => simp [bind, Except.bind]
  | ok found => simp [bind, Except.bind]

theorem bind_eq_error_iff {read : Except Fault First} {next : First → Except Fault Second}
    {fault : Fault} :
    (read >>= next) = .error fault ↔ read = .error fault ∨ ∃ found, read = .ok found ∧
    next found = .error fault := by
  cases read with
  | error other => simp [bind, Except.bind]
  | ok found => simp [bind, Except.bind]

theorem mapError_eq_ok_iff {Other : Type} {read : Except Fault First} {change : Fault → Other}
    {result : First} :
    read.mapError change = .ok result ↔ read = .ok result := by
  cases read with
  | error fault => exact iff_of_false (by rintro ⟨⟩) (by rintro ⟨⟩)
  | ok found =>
    constructor
    · exact fun same => congrArg Except.ok (Except.ok.inj same)
    · exact fun same => congrArg Except.ok (Except.ok.inj same)

theorem exists_map_iff {read : Except Fault First} {change : First → Second} :
    (∃ result, read.map change = .ok result) ↔ ∃ found, read = .ok found := by
  cases read with
  | error fault => simp [Except.map]
  | ok found => simp [Except.map]

theorem exists_bind_iff {read : Except Fault First} {next : First → Except Fault Second} :
    (∃ result, (read >>= next) = .ok result) ↔ ∃ found, read = .ok found ∧ ∃ result,
    next found = .ok result := by
  simp only [bind_eq_ok_iff]
  constructor
  · rintro ⟨result, found, isFound, goesOn⟩
    exact ⟨found, isFound, result, goesOn⟩
  · rintro ⟨found, isFound, result, goesOn⟩
    exact ⟨result, found, isFound, goesOn⟩

/-- Two steps of which the second goes well with every outcome of the first, or with none. -/
theorem exists_bind_iff_and {read : Except Fault First} {next : First → Except Fault Second}
    {goesOn : Prop} (independent : ∀ found, (∃ result, next found = .ok result) ↔ goesOn) :
    (∃ result, (read >>= next) = .ok result) ↔ (∃ found, read = .ok found) ∧ goesOn := by
  rw [exists_bind_iff, ← exists_and_right]
  exact exists_congr fun found => and_congr_right fun _ => independent found

theorem exists_mapM_and_iff {read : First → Except Fault Second} {holds : Second → Prop}
    {items : List First} :
    (∃ results, items.mapM read = .ok results ∧ ∀ result ∈ results, holds result) ↔
      ∀ item ∈ items, ∃ result, read item = .ok result ∧ holds result := by
  induction items with
  | nil => exact ⟨fun _ => List.forall_mem_nil _, fun _ => ⟨[], rfl, List.forall_mem_nil _⟩⟩
  | cons item more ih =>
    simp only [List.mapM_cons, List.forall_mem_cons, ← ih, bind_eq_ok_iff]
    constructor
    · rintro ⟨_, ⟨first, readFirst, results, readMore, ⟨⟩⟩, allHold⟩
      rw [List.forall_mem_cons] at allHold
      exact ⟨⟨first, readFirst, allHold.1⟩, results, readMore, allHold.2⟩
    · rintro ⟨⟨first, readFirst, firstHolds⟩, results, readMore, allHold⟩
      exact ⟨first :: results, ⟨first, readFirst, results, readMore, rfl⟩,
        List.forall_mem_cons.2 ⟨firstHolds, allHold⟩⟩

/-- The outcomes of several steps are those of each of them. -/
theorem mapM_eq_ok_iff {read : First → Except Fault Second} {items : List First}
    {results : List Second} :
    items.mapM read = .ok results ↔ List.Forall₂ (fun item result => read item = .ok result) items
      results := by
  induction items generalizing results with
  | nil =>
    rw [List.forall₂_nil_left_iff]
    exact ⟨fun same => (Except.ok.inj same).symm, fun empty => congrArg Except.ok empty.symm⟩
  | cons item more ih =>
    simp only [List.mapM_cons, List.forall₂_cons_left_iff, ← ih, bind_eq_ok_iff]
    constructor
    · rintro ⟨first, readFirst, others, readMore, ⟨⟩⟩
      exact ⟨first, others, readFirst, readMore, rfl⟩
    · rintro ⟨first, others, readFirst, readMore, rfl⟩
      exact ⟨first, readFirst, others, readMore, rfl⟩

/-- Steps that all go well have all their outcomes. -/
theorem mapM_eq_ok_map {read : First → Except Fault Second} {found : First → Second}
    {items : List First} (goesWell : ∀ item ∈ items, read item = .ok (found item)) :
    items.mapM read = .ok (items.map found) := by
  rw [mapM_eq_ok_iff, List.forall₂_map_right_iff, List.forall₂_same]
  exact goesWell

theorem exists_mapM_iff {read : First → Except Fault Second} {items : List First} :
    (∃ results, items.mapM read = .ok results) ↔ ∀ item ∈ items, ∃ result,
    read item = .ok result := by
  simpa using @exists_mapM_and_iff Fault First Second read (fun _ => True) items

/-- There is a fault exactly if there is no result. -/
theorem exists_error_iff {read : Except Fault First} :
    (∃ fault, read = .error fault) ↔ ¬∃ result, read = .ok result := by
  cases read with
  | error fault => simp
  | ok found => simp

end Except
