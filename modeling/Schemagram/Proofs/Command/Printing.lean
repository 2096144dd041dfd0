import Schemagram.Command.Run

/-!
# Printing pages

Pages are printed up to the first that is not printed.  So either all of them are printed, or some
and then there is a crash.  Such a crash is one of the screen, as is that of a name which is no
text.
-/

namespace Schemagram.Command

open Screen (PageFault)

/-- The fault is one of showing something on the screen. -/
inductive Crash.IsOfScreen : Crash → Prop where
  | page (fault : PageFault) : IsOfScreen (.page fault)
  | name (fault : Document.NameFault) : IsOfScreen (.name fault)

theorem printPages_map_ok (texts : List (List Char)) :
    printPages (texts.map .ok) = .print texts.flatten := by
  induction texts with
  | nil => rfl
  | cons text more ih =>
    rw [List.map_cons, printPages, ih]
    rfl

/-- All pages are printed, or there is a fault behind the ones that are. -/
theorem printPages_cases (pages : List (Except PageFault (List Char))) :
    (∃ texts : List (List Char), pages = texts.map .ok) ∨ ∃ output fault, .error fault ∈ pages ∧
      printPages pages = ⟨1, output, [], none, some (.page fault)⟩ := by
  induction pages with
  | nil => exact .inl ⟨[], rfl⟩
  | cons page more ih =>
    cases page with
    | error fault => exact .inr ⟨[], fault, List.mem_cons_self, rfl⟩
    | ok text =>
      rcases ih with ⟨texts, rfl⟩ | ⟨output, fault, mem, crashes⟩
      · exact .inl ⟨text :: texts, rfl⟩
      · refine .inr ⟨text ++ output, fault, List.mem_cons_of_mem _ mem, ?_⟩
        rw [printPages, crashes]
        rfl

/-- A page that is not printed is a crash. -/
theorem exists_crash_of_mem {pages : List (Except PageFault (List Char))} {fault : PageFault}
    (mem : .error fault ∈ pages) : ∃ output fault, .error fault ∈ pages ∧
      printPages pages = ⟨1, output, [], none, some (.page fault)⟩ := by
  rcases printPages_cases pages with ⟨texts, rfl⟩ | crashes
  · rcases List.mem_map.1 mem with ⟨_, _, ⟨⟩⟩
  · exact crashes

end Schemagram.Command
