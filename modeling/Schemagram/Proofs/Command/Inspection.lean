import Schemagram.Proofs.Command.Printing
import Schemagram.Proofs.Diagram.Loading
import Schemagram.Proofs.Screen.Console
import Schemagram.Proofs.Screen.Pages

/-!
# Which documents have a summary

A text that is no diagram document is reported as such.  A document has a summary exactly if its
names can be shown: every entity is named by a string, the screen reads all names, and there is no
surrogate on their pages.  The checks of a document do not ask for that; the numbers in a summary
never stand in its way.
-/

namespace Schemagram

open Screen (Renderer IsChars ClosesFirst)
open Text (CodePoint points)

/-! ### Numbers -/

theorem Decimal.bracket_not_mem_text (value : Nat) : '[' ∉ (text value).toList := by
  rw [text, String.toList_ofList]
  exact fun mem => absurd (isNumeral_of_mem_digits mem) (by decide)

namespace Document

variable {document : Document} {entity : Json} {screen : Renderer}

theorem bracket_not_mem_numberText (value : Json) : '[' ∉ (numberText value).toList := by
  cases value with
  | integer value =>
    rw [numberText, String.toList_ofList]
    exact fun mem => absurd (Decimal.isNumeral_of_mem_integer mem) (by decide)
  | double value =>
    rw [numberText, String.toList_ofList]
    intro mem
    rcases Double.of_mem_text mem with numeral | isNan | isInfinity
    · exact absurd numeral (by decide)
    · exact absurd isNan (by decide)
    · exact absurd isInfinity (by decide)
  | _ => simp [numberText]

theorem bracket_not_mem_attributeCount (entity : Json) : '[' ∉ (attributeCount entity).toList := by
  unfold attributeCount
  split <;> exact Decimal.bracket_not_mem_text _

theorem bracket_not_mem_positionText (entity : Json) : '[' ∉ (positionText entity).toList := by
  have coordinate (value? : Option Json) : '[' ∉ ((value?.map numberText).getD "").toList := by
    cases value? with
    | none => decide
    | some value => exact bracket_not_mem_numberText value
  simp only [positionText, String.toList_append, List.mem_append, coordinate]
  decide

theorem exists_relationshipsPage (documented : screen.Documented) (document : Document) :
    ∃ page, screen.linePage document.relationshipsLine = .ok page := by
  refine documented.exists_linePage fun closing => ?_
  have noBracket : '[' ∉
      ("Relationships: " ++ Decimal.text document.relationships.length).toList := by
    simp only [String.toList_append, List.mem_append, Decimal.bracket_not_mem_text]
    decide
  exact noBracket (closing.subset List.mem_cons_self)

/-! ### Names -/

/-- An entity that passed the checks has a name, which is shown if it is a string. -/
theorem entityName_eq_ok_iff (checked : isEntity entity = true) {name : List CodePoint} :
    entityName entity = .ok name ↔ entity.get? "name" = some (.string name) := by
  have isNamed : has entity "name" = true := by
    simp only [isEntity, Bool.and_eq_true] at checked
    exact checked.1.1.2
  cases found : entity.get? "name" with
  | none =>
    rw [has, found] at isNamed
    cases isNamed
  | some value => cases value <;> simp [entityName, found]

/-- The table of a document under some names for its entities. -/
def namedView (document : Document) (names : List (List CodePoint)) : Screen.View where
  title := points "Diagram Summary"
  columns := [⟨points "Entity", names⟩,
    .ofStrings "Attributes" (document.entities.map attributeCount),
    .ofStrings "Position" (document.entities.map positionText)]
  caption? := none

theorem view_eq_ok_iff {view : Screen.View} : document.view = .ok view ↔
    ∃ names, document.entities.mapM entityName = .ok names ∧ document.namedView names = view := by
  rw [Document.view, Except.bind_eq_ok_iff]
  exact exists_congr fun names => and_congr_right fun _ => ⟨Except.ok.inj, congrArg Except.ok⟩

/-- What holds of the names and of all texts without brackets holds of all texts in the table of a
document. -/
theorem forall_texts_namedView {holds : List CodePoint → Prop} {names : List (List CodePoint)}
    (ofNames : ∀ name ∈ names, holds name)
    (ofFixed : ∀ text : String, '[' ∉ text.toList → holds (points text)) :
    ∀ text ∈ (document.namedView names).texts, holds text := by
  rw [Screen.View.forall_texts, Screen.View.forall_cells]
  refine ⟨ofFixed _ (by decide), ?_, fun _ isCaption => by cases isCaption⟩
  simp only [namedView, Screen.View.Column.ofStrings, List.forall_mem_cons, List.not_mem_nil,
    false_implies, implies_true, and_true, List.forall_mem_map]
  exact ⟨⟨ofFixed _ (by decide), ofNames⟩,
    ⟨ofFixed _ (by decide), fun entity _ => ofFixed _ (bracket_not_mem_attributeCount entity)⟩,
    ofFixed _ (by decide), fun entity _ => ofFixed _ (bracket_not_mem_positionText entity)⟩

theorem mem_texts_namedView {names : List (List CodePoint)} {name : List CodePoint}
    (mem : name ∈ names) :
    name ∈ (document.namedView names).texts :=
  Screen.View.mem_texts (Screen.View.mem_cells List.mem_cons_self (.inr mem))

/-- The screen takes the names of the entities of a document and the line of its enums: they are
strings that are read, and no surrogates come onto their pages. -/
structure IsShowable (screen : Renderer) (document : Document) : Prop where
  names : ∀ entity ∈ document.entities, ∃ name shown, entity.get? "name" = some (.string name) ∧
    screen.read name = .ok shown
  table : ∀ view shown, document.view = .ok view → view.readBy screen.read = .ok shown →
    IsChars (screen.table shown)
  enums : ∃ shown, screen.read document.enumsLine = .ok shown ∧ IsChars (screen.line shown)

/-- What is printed of a document: the table of its entities and the two lines below. -/
def IsSummary (screen : Renderer) (document : Document) (output : List Char) : Prop :=
  ∃ view entities relationships enums, document.view = .ok view ∧
    screen.tablePage view = .ok entities ∧
    screen.linePage document.relationshipsLine = .ok relationships ∧
    screen.linePage document.enumsLine = .ok enums ∧ output = entities ++ relationships ++ enums

/-- Every entity is named by a string that the screen reads. -/
theorem exists_readView_iff (documented : screen.Documented)
    (checked : document.entities.all isEntity = true) :
    (∃ view shown, document.view = .ok view ∧ view.readBy screen.read = .ok shown) ↔
      ∀ entity ∈ document.entities, ∃ name shown, entity.get? "name" = some (.string name) ∧
        screen.read name = .ok shown := by
  have isRead (names : List (List CodePoint)) :
      (∃ shown, (document.namedView names).readBy screen.read = .ok shown) ↔
      ∀ name ∈ names, ∃ shown, screen.read name = .ok shown := by
    rw [Screen.View.exists_readBy_iff]
    exact ⟨fun reads name mem => reads name (mem_texts_namedView mem),
      fun reads => forall_texts_namedView reads fun text noBracket =>
        documented.exists_read noBracket⟩
  calc (∃ view shown, document.view = .ok view ∧ view.readBy screen.read = .ok shown)
    _ ↔ ∃ names, document.entities.mapM entityName = .ok names ∧ ∀ name ∈ names, ∃ shown,
      screen.read name = .ok shown := by
      simp only [view_eq_ok_iff, ← isRead]
      constructor
      · rintro ⟨_, shown, ⟨names, named, rfl⟩, isShown⟩
        exact ⟨names, named, shown, isShown⟩
      · rintro ⟨names, named, shown, isShown⟩
        exact ⟨_, shown, ⟨names, named, rfl⟩, isShown⟩
    _ ↔ ∀ entity ∈ document.entities, ∃ name, entityName entity = .ok name ∧ ∃ shown,
      screen.read name = .ok shown :=
      Except.exists_mapM_and_iff
    _ ↔ _ := by
      refine forall₂_congr fun entity mem => ?_
      simp only [entityName_eq_ok_iff (List.all_eq_true.1 checked entity mem), exists_and_left]

theorem exists_isSummary_iff (documented : screen.Documented)
    (checked : document.entities.all isEntity = true) :
    (∃ output, IsSummary screen document output) ↔ document.IsShowable screen := by
  constructor
  · rintro ⟨_, view, entities, _, enums, isView, isTable, _, isEnums, rfl⟩
    rcases Renderer.tablePage_eq_ok_iff.1 isTable with ⟨shown, isShown, isPage⟩
    rcases Renderer.linePage_eq_ok_iff.1 isEnums with ⟨shownEnums, isShownEnums, isEnumsPage⟩
    refine ⟨(exists_readView_iff documented checked).1 ⟨view, shown, isView, isShown⟩, ?_,
      shownEnums, isShownEnums, enums, isEnumsPage⟩
    intro other otherShown isOther isOtherShown
    rw [isView] at isOther
    cases isOther
    rw [isShown] at isOtherShown
    cases isOtherShown
    exact ⟨entities, isPage⟩
  · rintro ⟨names, table, shownEnums, isShownEnums, enums, isEnumsPage⟩
    rcases (exists_readView_iff documented checked).2 names with ⟨view, shown, isView, isShown⟩
    rcases table view shown isView isShown with ⟨entities, isPage⟩
    rcases exists_relationshipsPage documented document with ⟨relationships, isRelationships⟩
    exact ⟨_, view, entities, relationships, enums, isView,
      Renderer.tablePage_eq_ok_iff.2 ⟨shown, isShown, isPage⟩,
      isRelationships, Renderer.linePage_eq_ok_iff.2 ⟨shownEnums, isShownEnums, isEnumsPage⟩, rfl⟩

theorem all_isEntity_of_load {limit? : Option Nat} {text : List Char}
    (loaded : (load limit? text).result = .ok document) :
    document.entities.all isEntity = true := by
  rcases of_load loaded with ⟨_, _, loaded⟩
  exact (of_ofJson loaded).2.2.2.2.1

/-- The names in a document are strings without surrogates and without a slash behind a bracket. -/
structure HasPlainNames (document : Document) : Prop where
  names : ∀ entity ∈ document.entities, ∃ name : List Char,
    entity.get? "name" = some (.string (name.map .ofChar)) ∧ ¬['[', '/'] <:+: name
  enums : ∃ line : List Char, document.enumsLine = line.map .ofChar ∧ ¬['[', '/'] <:+: line

theorem HasPlainNames.isShowable (documented : screen.Documented)
    (checked : document.entities.all isEntity = true) (hasPlainNames : document.HasPlainNames) :
    document.IsShowable screen := by
  refine ⟨fun entity mem => ?_, fun view shown isView isShown => ?_, ?_⟩
  · rcases hasPlainNames.names entity mem with ⟨name, isName, noClosing⟩
    rcases documented.read_unclosing name noClosing with ⟨shown, isShown⟩
    exact ⟨_, shown, isName, isShown⟩
  · rcases view_eq_ok_iff.1 isView with ⟨names, named, rfl⟩
    have isNamed : ∀ entity ∈ document.entities, ∃ name, entityName entity = .ok name ∧
        IsChars name := by
      intro entity mem
      rcases hasPlainNames.names entity mem with ⟨name, isName, _⟩
      exact ⟨_, (entityName_eq_ok_iff (List.all_eq_true.1 checked entity mem)).2 isName, name, rfl⟩
    rcases Except.exists_mapM_and_iff.2 isNamed with ⟨others, namedOthers, areChars⟩
    cases named.symm.trans namedOthers
    exact documented.isChars_table
      (forall_texts_namedView areChars fun text _ => Screen.isChars_points text) isShown
  · rcases hasPlainNames.enums with ⟨line, isLine, noClosing⟩
    rcases documented.read_unclosing line noClosing with ⟨shown, isShown⟩
    rw [isLine]
    exact ⟨shown, isShown,
      documented.line_chars shown (documented.read_chars _ _ ⟨line, rfl⟩ isShown)⟩

/-- Some entity is named by no string, or by a text that starts with a closing tag as far as
brackets go. -/
def HasWrongName (document : Document) : Prop :=
  ∃ entity ∈ document.entities, (∀ name, entity.get? "name" ≠ some (.string name)) ∨
    ∃ name : List Char, entity.get? "name" = some (.string (name.map .ofChar)) ∧ ClosesFirst name

theorem HasWrongName.not_isShowable (documented : screen.Documented)
    (hasWrongName : document.HasWrongName) :
    ¬document.IsShowable screen := by
  rintro ⟨names, _, _⟩
  rcases hasWrongName with ⟨entity, mem, isWrong⟩
  rcases names entity mem with ⟨name, shown, isName, isShown⟩
  rcases isWrong with noString | ⟨chars, isOther, closes⟩
  · exact noString name isName
  · rw [isOther] at isName
    cases isName
    rcases documented.read_closing chars closes with ⟨reason, refused⟩
    rw [refused] at isShown
    cases isShown

end Document

/-! ### The command -/

namespace Command

open Document (IsSummary)

variable {surroundings : Surroundings} {document : Document}

/-- The outcome with a summary. -/
def Outcome.summary (screen : Renderer) (output : List Char) : Outcome :=
  ⟨0, output, screen.message .success "Diagram document is valid", none, none⟩

theorem summarize_of_isSummary {output : List Char}
    (isSummary : IsSummary surroundings.screen document output) :
    summarize surroundings document = .summary surroundings.screen output := by
  rcases isSummary with
    ⟨view, entities, relationships, enums, isView, isTable, isRelationships, isEnums, rfl⟩
  have printed := printPages_map_ok [entities, relationships, enums]
  rw [summarize, isView]
  dsimp only
  rw [isTable, isRelationships, isEnums, ← List.map_singleton, ← List.map_cons, ← List.map_cons,
    printed, Outcome.print, Outcome.before, Outcome.summary]
  simp

/-- What has no summary cannot be shown. -/
theorem summarize_of_not_isSummary
    (noSummary : ¬∃ output, IsSummary surroundings.screen document output) :
    ∃ output crash, crash.IsOfScreen ∧ summarize surroundings document =
      ⟨1, output, [], none, some crash⟩ := by
  rw [summarize]
  cases isView : document.view with
  | error fault => exact ⟨[], _, .name fault, rfl⟩
  | ok view =>
    dsimp only
    rcases printPages_cases [surroundings.screen.tablePage view,
      surroundings.screen.linePage document.relationshipsLine,
      surroundings.screen.linePage document.enumsLine] with ⟨texts, arePages⟩ | ⟨output, fault,
      _, crashes⟩
    · have arePrinted : ∀ page ∈ (texts.map .ok : List (Except Screen.PageFault (List Char))),
          ∃ printed, page = .ok printed := List.forall_mem_map.2 fun text _ => ⟨text, rfl⟩
      rw [← arePages] at arePrinted
      simp only [List.forall_mem_cons] at arePrinted
      rcases arePrinted with
        ⟨⟨entities, isTable⟩, ⟨relationships, isRelationships⟩, ⟨enums, isEnums⟩, _⟩
      exact absurd ⟨_, view, entities, relationships, enums, isView, isTable, isRelationships,
        isEnums, rfl⟩ noSummary
    · exact ⟨output, _, .page fault, by rw [crashes]; rfl⟩

variable {location : Location} {text : List Char}

theorem result_run_inspect (readable : readText surroundings location = .ok text) :
    (run surroundings (.inspect location)).result =
      match (Document.load surroundings.limit? text).result with
      | .error (.format fault) => .fail surroundings fault.message
      | .error (.digits excess) => .crash [] (.digits excess)
      | .ok document => summarize surroundings document := by
  rw [run, withText, readable]
  dsimp only
  rw [runInspect, Logged.result_bind]
  cases (Document.load surroundings.limit? text).result with
  | error fault => cases fault <;> rfl
  | ok document => rfl

/-- What a failure says is a line that begins with a word for it. -/
theorem exists_errorLine (documented : surroundings.screen.Documented) (message : String) :
    ∃ shown : List Char, (Outcome.fail surroundings message).messages.map CodePoint.ofChar =
      surroundings.screen.line (("Error: ".toList ++ shown).map .ofChar) := by
  rcases documented.message_line .failure message with ⟨shown, isLine⟩
  exact ⟨shown, isLine⟩

/-- A readable text that is no diagram document is reported, unless an integer in it has too many
digits, of which there is no report.  A summary is printed of a diagram document that the screen can
show, and otherwise the screen is at fault.  It can show every document with plain names, and none
in which some name is no string or starts with a closing tag. -/
theorem inspect_of_readable (documented : surroundings.screen.Documented)
    (readable : readText surroundings location = .ok text) :
    (∀ fault, (Document.load surroundings.limit? text).result = .error (.format fault) →
      (run surroundings (.inspect location)).result = .fail surroundings fault.message ∧
      ∃ shown : List Char,
      (run surroundings (.inspect location)).result.messages.map CodePoint.ofChar =
        surroundings.screen.line (("Error: ".toList ++ shown).map .ofChar)) ∧
    (∀ excess, (Document.load surroundings.limit? text).result = .error (.digits excess) →
      (run surroundings (.inspect location)).result = .crash [] (.digits excess)) ∧
    ∀ document, (Document.load surroundings.limit? text).result = .ok document →
      (document.IsShowable surroundings.screen → ∃ output,
        IsSummary surroundings.screen document output ∧
        (run surroundings (.inspect location)).result = .summary surroundings.screen output) ∧
      (¬document.IsShowable surroundings.screen → ∃ output crash, crash.IsOfScreen ∧
        (run surroundings (.inspect location)).result = ⟨1, output, [], none, some crash⟩) ∧
      (document.HasPlainNames → document.IsShowable surroundings.screen) ∧
      (document.HasWrongName → ¬document.IsShowable surroundings.screen) := by
  rw [result_run_inspect readable]
  refine ⟨fun fault failed => ?_, fun excess stops => ?_, fun document loaded => ?_⟩
  · rw [failed]
    exact ⟨rfl, exists_errorLine documented fault.message⟩
  · rw [stops]
  · have checked := Document.all_isEntity_of_load loaded
    rw [loaded, ← Document.exists_isSummary_iff documented checked]
    refine ⟨?_, summarize_of_not_isSummary, fun plain => ?_, fun wrong => ?_⟩
    · rintro ⟨output, isSummary⟩
      exact ⟨output, isSummary, summarize_of_isSummary isSummary⟩
    · exact (Document.exists_isSummary_iff documented checked).2
        (plain.isShowable documented checked)
    · exact fun summary =>
        wrong.not_isShowable documented
          ((Document.exists_isSummary_iff documented checked).1 summary)

/-- The text of a document with one entity. -/
def oneEntity (name : String) : List Char :=
  ("\x7b\"entities\": [\x7b\"id\": 1, \"name\": \"" ++ name ++
    "\", \"attributes\": [], \"position\": \x7b\"x\": 1, \"y\": 2\x7d\x7d], " ++
    "\"relationships\": []\x7d").toList

/-- A text on the standard input, no files, and a console. -/
def withInput (text : List Char) : Surroundings where
  files := ⟨fun _ => .ok false, fun _ => .error "", fun _ _ => .refused ""⟩
  input := (String.ofList text).toUTF8.toList
  limit? := Decimal.usualLimit
  screen := Screen.console 80 ""

/-- The names of the entities in a text, and the line of its enums. -/
def namesIn (text : List Char) :
    Option (Except Document.NameFault (List (List CodePoint)) × List CodePoint) :=
  (Document.load Decimal.usualLimit text).result.toOption.map fun document =>
    (document.entities.mapM Document.entityName, document.enumsLine)

theorem exists_of_namesIn {text : List Char} {name : String}
    (isName : namesIn text = some (.ok [points name], points "Enums: none")) :
    ∃ document entity, (Document.load Decimal.usualLimit text).result = .ok document ∧
    document.entities = [entity] ∧
      entity.get? "name" = some (.string (points name)) ∧
      document.enumsLine = points "Enums: none" := by
  rw [namesIn] at isName
  cases loaded : (Document.load Decimal.usualLimit text).result with
  | error fault =>
    rw [loaded] at isName
    cases isName
  | ok document =>
    rw [loaded] at isName
    rcases Prod.mk.inj (Option.some.inj isName) with ⟨named, isLine⟩
    rcases List.forall₂_cons_right_iff.1 (Except.mapM_eq_ok_iff.1 named) with
      ⟨entity, more, isNamed, noMore, isWhole⟩
    rw [List.forall₂_nil_right_iff] at noMore
    have mem : entity ∈ document.entities := by
      rw [isWhole]
      exact List.mem_cons_self
    have checked := List.all_eq_true.1 (Document.all_isEntity_of_load loaded) entity mem
    exact ⟨document, entity, rfl, by rw [isWhole, noMore],
      (Document.entityName_eq_ok_iff checked).1 isNamed, isLine⟩

theorem closesFirst_closingTag : ClosesFirst "[/b]".toList :=
  ⟨[], ['b'], [], rfl, by decide, by decide, by decide, by decide⟩

theorem inspect_of_readable_names :
    (run (withInput "[]".toList) (.inspect .input)).result =
        .fail (withInput "[]".toList) "Invalid diagram format: expected a JSON object" ∧
      (∃ output, (run (withInput (oneEntity "users")) (.inspect .input)).result =
        .summary (Screen.console 80 "") output) ∧
      ∃ output crash, crash.IsOfScreen ∧
        (run (withInput (oneEntity "[/b]")) (.inspect .input)).result =
        ⟨1, output, [], none, some crash⟩ := by
  have documented := Screen.documented_console 80 ""
  refine ⟨?_, ?_, ?_⟩
  · have readable : readText (withInput "[]".toList) .input = .ok "[]".toList := by decide +kernel
    exact ((inspect_of_readable documented readable).1 .notAnObject rfl).1
  · have readable : readText (withInput (oneEntity "users")) .input = .ok (oneEntity "users") := by
      decide +kernel
    rcases @exists_of_namesIn (oneEntity "users") "users" (by decide +kernel) with
      ⟨document, entity, loaded, only, isName, isLine⟩
    have hasPlainNames : document.HasPlainNames := by
      refine ⟨?_, "Enums: none".toList, isLine, by decide⟩
      rw [only, List.forall_mem_singleton]
      exact ⟨"users".toList, isName, by decide⟩
    rcases (inspect_of_readable documented readable).2.2 document loaded with ⟨shown, _, plain, _⟩
    rcases shown (plain hasPlainNames) with ⟨output, _, ends⟩
    exact ⟨output, ends⟩
  · have readable : readText (withInput (oneEntity "[/b]")) .input = .ok (oneEntity "[/b]") := by
      decide +kernel
    rcases @exists_of_namesIn (oneEntity "[/b]") "[/b]" (by decide +kernel) with
      ⟨document, entity, loaded, only, isName, _⟩
    have hasWrongName : document.HasWrongName := by
      refine ⟨entity, ?_, .inr ⟨_, isName, closesFirst_closingTag⟩⟩
      rw [only]
      exact List.mem_cons_self
    rcases (inspect_of_readable documented readable).2.2 document loaded with ⟨_, crashes, _, wrong⟩
    exact crashes (wrong hasWrongName)

/-- Not every document that passes all checks has a summary: a name in it may be a closing tag. -/
theorem inspect_without_summary : ¬∀ surroundings : Surroundings, surroundings.screen.Documented →
    ∀ location text, readText surroundings location = .ok text →
      (run surroundings (.inspect location)).result.crash? = none := by
  intro always
  have crashes : (run (withInput (oneEntity "[/b]")) (.inspect .input)).result.crash? ≠ none := by
    decide +kernel
  exact crashes (always (withInput (oneEntity "[/b]")) (Screen.documented_console 80 "") .input
    (oneEntity "[/b]") (by decide +kernel))

/-- A name that holds one half of a pair of surrogates is not printed. -/
example : (run (withInput (oneEntity "\\ud800")) (.inspect .input)).result =
    .crash [] (.page .surrogate) := by
  decide +kernel

end Command

end Schemagram
