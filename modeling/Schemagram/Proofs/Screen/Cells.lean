import Schemagram.Proofs.Scan.Types
import Schemagram.Proofs.Screen.Pages

/-!
# Views with free texts

Words, types and the like mean nothing on a screen, and they stand on one line.  So of a view that
is made of such texts and of some free ones, all but the free ones is shown as it is, on any screen.
-/

namespace Schemagram.Screen

open Text (CodePoint points isSpace)

/-! ### Fixed texts -/

/-- A text that means nothing on a screen. -/
def IsQuiet (text : List CodePoint) : Prop :=
  ∃ chars : List Char, text = chars.map .ofChar ∧ ∀ char ∈ chars, isQuiet char = true

/-- A text that means nothing on a screen and stands on one line. -/
def IsFixed (text : List CodePoint) : Prop :=
  ∃ chars : List Char, text = chars.map .ofChar ∧ (∀ char ∈ chars, isQuiet char = true) ∧
    IsLine chars

theorem IsFixed.isQuiet {text : List CodePoint} (isFixed : IsFixed text) : IsQuiet text := by
  rcases isFixed with ⟨chars, isText, quiet, _⟩
  exact ⟨chars, isText, quiet⟩

theorem IsQuiet.isChars {text : List CodePoint} (quiet : IsQuiet text) : IsChars text := by
  rcases quiet with ⟨chars, isText, _⟩
  exact ⟨chars, isText⟩

instance (text : List Char) : Decidable (IsLine text) :=
  decidable_of_iff ((∀ char ∈ text, endsLine char = false) ∧ '\t' ∉ text ∧
    Text.dropEndWhile isSpace text = text)
    ⟨fun ⟨unbroken, noTab, noSpaceBehind⟩ => ⟨unbroken, noTab, noSpaceBehind⟩,
      fun ⟨unbroken, noTab, noSpaceBehind⟩ => ⟨unbroken, noTab, noSpaceBehind⟩⟩

theorem isLine_of_not_isSpace {text : List Char} (noSpace : ∀ char ∈ text, isSpace char = false) :
    IsLine text := by
  refine ⟨?_, ?_, Text.dropEndWhile_of_getLast? fun char mem =>
    noSpace char (List.mem_of_getLast? mem)⟩
  · intro char mem
    have isOther := noSpace char mem
    rw [← Bool.not_eq_true]
    simp only [endsLine, Bool.or_eq_true, decide_eq_true_eq]
    rintro ((((((rfl | rfl) | rfl) | rfl) | rfl) | rfl) | rfl) <;> exact absurd isOther (by decide)
  · intro mem
    exact absurd (noSpace '\t' mem) (by decide)

theorem isFixed_points {text : String}
    (fixed : (∀ char ∈ text.toList, isQuiet char = true) ∧ IsLine text.toList) :
    IsFixed (points text) :=
  ⟨text.toList, rfl, fixed⟩

/-- Whether a character means nothing on a screen and is no white space. -/
def isSimple (char : Char) : Bool := isQuiet char && !isSpace char

theorem isFixed_of_isSimple {text : String} (simple : ∀ char ∈ text.toList, isSimple char = true) :
    IsFixed (points text) := by
  simp only [isSimple, Bool.and_eq_true, Bool.not_eq_true'] at simple
  exact isFixed_points ⟨fun char mem => (simple char mem).1, isLine_of_not_isSpace fun char mem =>
    (simple char mem).2⟩

/-- What is no white space is simple, but for four characters. -/
theorem isSimple_of_not_isSpace {char : Char} (noSpace : isSpace char = false)
    (noMark : char ∉ ['[', ':', '\x07', '\x08']) : isSimple char = true := by
  have noControl : isActing char = false := by
    rw [← Bool.not_eq_true]
    simp only [isActing, Bool.or_eq_true, decide_eq_true_eq]
    rintro ((((rfl | rfl) | rfl) | rfl) | rfl)
    · exact noMark (by decide)
    · exact noMark (by decide)
    all_goals exact absurd noSpace (by decide)
  simp only [List.mem_cons, List.not_mem_nil, or_false, not_or] at noMark
  simp [isSimple, isQuiet, noMark, noControl, noSpace]

theorem isSimple_of_isWord {char : Char} (inWord : Text.isWord char = true) :
    isSimple char = true := by
  refine isSimple_of_not_isSpace (Text.not_isSpace_of_isWord inWord) fun mem => ?_
  have noMark : ∀ mark ∈ ['[', ':', '\x07', '\x08'], Text.isWord mark = false := by decide
  simp [noMark char mem] at inWord

theorem isQuiet_of_isWord {char : Char} (inWord : Text.isWord char = true) :
    isQuiet char = true := by
  have simple := isSimple_of_isWord inWord
  rw [isSimple, Bool.and_eq_true] at simple
  exact simple.1

theorem isSimple_of_isDecimal {char : Char} (inNumber : Text.isDecimal char = true) :
    isSimple char = true := by
  refine isSimple_of_not_isSpace (Text.not_isSpace_of_isDecimal inNumber) fun mem => ?_
  have noMark : ∀ mark ∈ ['[', ':', '\x07', '\x08'], Text.isDecimal mark = false := by decide
  simp [noMark char mem] at inNumber

/-- The marks around the sizes of a type are simple. -/
theorem isSimple_of_mem_marks {char : Char} (isMark : char ∈ ['(', ',', ')']) :
    isSimple char = true := by
  have marks : ∀ mark ∈ ['(', ',', ')'], isSimple mark = true := by decide
  exact marks char isMark

theorem isFixed_of_isWord {text : String} (isWord : Text.IsWord text.toList) :
    IsFixed (points text) :=
  isFixed_of_isSimple fun char mem => isSimple_of_isWord (isWord.2 char mem)

theorem isQuiet_of_isWord_append {name : String} (isWord : Text.IsWord name.toList) {more : String}
    (quiet : ∀ char ∈ more.toList, isQuiet char = true) : IsQuiet (points (name ++ more)) := by
  refine ⟨_, rfl, ?_⟩
  rw [String.toList_append, List.forall_mem_append]
  exact ⟨fun char mem => isQuiet_of_isWord (isWord.2 char mem), quiet⟩

theorem isFixed_of_isType {text : String} (isType : IsType text.toList) :
    IsFixed (points text) := by
  refine isFixed_of_isSimple fun char mem => ?_
  have noOther := isType.of_mem mem
  simp only [Bool.or_eq_true, decide_eq_true_eq] at noOther
  rcases noOther with (inWord | inNumber) | isMark
  · exact isSimple_of_isWord inWord
  · exact isSimple_of_isDecimal inNumber
  · exact isSimple_of_mem_marks isMark

/-! ### Free texts -/

/-- Views in which every text is fixed, apart from some free ones.  A title needs not stand on one
line. -/
structure Varies (views : List View) (free : List String) : Prop where
  titles : ∀ view ∈ views, IsQuiet view.title
  cells : ∀ view ∈ views, ∀ cell ∈ view.cells, cell ∈ free.map points ∨ IsFixed cell
  captions : ∀ view ∈ views, ∀ caption ∈ view.caption?, caption ∈ free.map points
  even : ∀ view ∈ views, view.IsEven
  used : ∀ text ∈ free, ∃ view ∈ views, points text ∈ view.texts

/-- What a screen shows instead of each text: of the free ones what it reads in them, and otherwise
the text itself. -/
structure IsReading (screen : Renderer) (free : List String)
    (reading : List CodePoint → List CodePoint) : Prop where
  reads : ∀ text ∈ free, screen.read (points text) = .ok (reading (points text))
  fixed : ∀ text ∉ free.map points, reading text = text

namespace Varies

variable {screen : Renderer} {views : List View} {free : List String}
  {reading : List CodePoint → List CodePoint}

/-- What holds of the free texts and of all quiet ones holds of all texts. -/
theorem forall_texts {holds : List CodePoint → Prop} (varies : Varies views free)
    (ofQuiet : ∀ text, IsQuiet text → holds text) (ofFree : ∀ text ∈ free, holds (points text)) :
    ∀ view ∈ views, ∀ text ∈ view.texts, holds text := by
  intro view mem
  rw [← List.forall_mem_map] at ofFree
  rw [View.forall_texts]
  refine ⟨ofQuiet _ (varies.titles view mem), fun cell memCell => ?_, fun caption isCaption => ?_⟩
  · rcases varies.cells view mem cell memCell with isFree | isFixed
    · exact ofFree cell isFree
    · exact ofQuiet cell isFixed.isQuiet
  · exact ofFree caption (varies.captions view mem caption isCaption)

theorem isChars (varies : Varies views free) : ∀ view ∈ views, ∀ text ∈ view.texts, IsChars text :=
  varies.forall_texts (fun _ quiet => quiet.isChars) fun text _ => isChars_points text

variable (documented : screen.Documented)

include documented

theorem read_eq (varies : Varies views free) (isReading : IsReading screen free reading) :
    ∀ view ∈ views, ∀ text ∈ view.texts, screen.read text = .ok (reading text) := by
  refine varies.forall_texts (fun text quiet => ?_) isReading.reads
  by_cases isFree : text ∈ free.map points
  · rcases List.mem_map.1 isFree with ⟨freeText, mem, rfl⟩
    exact isReading.reads freeText mem
  · rcases quiet with ⟨chars, rfl, quiet⟩
    rw [isReading.fixed _ isFree]
    exact documented.read_quiet chars quiet

/-- What is not free stands in the page of its view as it is, if there is room. -/
theorem infix_table (varies : Varies views free) (isReading : IsReading screen free reading)
    {view : View} (mem : view ∈ views) (hasRoom : screen.hasRoom (view.map reading) = true)
    {cell : List CodePoint} (memCell : cell ∈ view.cells) (notFree : cell ∉ free.map points) :
    cell <:+: screen.table (view.map reading) := by
  rcases (varies.cells view mem cell memCell).resolve_left notFree with ⟨chars, rfl, _, isLine⟩
  refine documented.table_cell _ chars (varies.even view mem).map hasRoom ?_ isLine
  have memShown := List.mem_map_of_mem (f := reading) memCell
  rwa [isReading.fixed _ notFree, ← View.cells_map] at memShown

end Varies

/-- Where all free texts mean nothing, everything is shown as it is. -/
theorem isReading_id {screen : Renderer} (documented : screen.Documented) {free : List String}
    (quiet : ∀ text ∈ free, ∀ char ∈ text.toList, isQuiet char = true) : IsReading screen free id :=
  ⟨fun text mem => documented.read_quiet text.toList (quiet text mem), fun _ _ => rfl⟩

theorem View.map_id (view : View) : view.map id = view := by
  simp [View.map]

end Schemagram.Screen
