import Mathlib
import Schemagram.Diagram.LayoutFile
import Schemagram.Proofs.Results
import Schemagram.Proofs.Toml.Order

/-!
# Which layout a file sets

A document sets a layout unless its `layout` is no table, a key there is no setting, or a setting
has a value that it does not allow.  What it sets is the standard layout overlaid with the members
of the table.  The fault that is reported is the first one in this order, with unknown keys sorted
and settings in an order of their own.  So only the members of the table count, and not the order in
which they are written.
-/

namespace Schemagram

namespace Layout

open Decimal (usualLimit)

variable {members others : Toml.Members} {layout : Layout}

/-! ### Single settings -/

namespace Setting

variable {setting : Setting}

/-- A setting allows whole numbers from its least one on.  Truth values are no numbers. -/
def Allows (setting : Setting) (value : Toml) : Prop := ∃ number, value = .integer number ∧
    setting.least ≤ number

theorem mem_all (setting : Setting) : setting ∈ all := by
  cases setting <;> decide

theorem key_injective : Function.Injective key := by
  intro setting other same
  cases setting <;> cases other <;> first | rfl | exact absurd same (by decide)

theorem read_of_absent (absent : Keyed.get? setting.key members = none) :
    setting.read members = .ok (setting.of standard) := by
  rw [read, absent]

theorem read_of_allowed {number : Int}
    (found : Keyed.get? setting.key members = some (.integer number))
    (allowed : setting.least ≤ number) : setting.read members = .ok number := by
  rw [read, found]
  exact if_pos allowed

theorem read_of_refused {value : Toml} (found : Keyed.get? setting.key members = some value)
    (refused : ¬setting.Allows value) :
    setting.read members = .error (.badSetting setting value) := by
  rw [read, found]
  cases value with
  | integer number => exact if_neg fun allowed => refused ⟨number, rfl, allowed⟩
  | _ => rfl

theorem read_eq_ok_iff {number : Int} : setting.read members = .ok number ↔
    Keyed.get? setting.key members = none ∧ setting.of standard = number ∨
      Keyed.get? setting.key members = some (.integer number) ∧ setting.least ≤ number := by
  cases found : Keyed.get? setting.key members with
  | none => simp [read_of_absent found]
  | some value =>
    by_cases allows : setting.Allows value
    · rcases allows with ⟨other, rfl, allowed⟩
      rw [read_of_allowed found allowed]
      simp only [Except.ok.injEq, reduceCtorEq, false_and, false_or, Option.some.injEq,
        Toml.integer.injEq]
      exact ⟨fun same => ⟨same, same ▸ allowed⟩, And.left⟩
    · rw [read_of_refused found allows]
      simp only [reduceCtorEq, false_and, false_or, Option.some.injEq, false_iff]
      exact fun isNumber => allows ⟨number, isNumber⟩

theorem read_eq_error_iff {fault : FileFault} : setting.read members = .error fault ↔
    ∃ value, Keyed.get? setting.key members = some value ∧ ¬setting.Allows value ∧
      .badSetting setting value = fault := by
  cases found : Keyed.get? setting.key members with
  | none => simp [read_of_absent found]
  | some value =>
    by_cases allows : setting.Allows value
    · have isRead : ∃ number, setting.read members = .ok number := by
        rcases allows with ⟨number, rfl, allowed⟩
        exact ⟨number, read_of_allowed found allowed⟩
      rcases isRead with ⟨number, isRead⟩
      simp [isRead, allows]
    · simp [read_of_refused found allows, allows]

/-- The settings that are looked at before one. -/
def before (setting : Setting) : List Setting := all.takeWhile (· ≠ setting)

end Setting

/-! ### Unknown keys -/

theorem mem_unknownKeys {key : String} :
    key ∈ unknownKeys members ↔ key ∈ Keyed.keys members ∧ ∀ setting : Setting,
    setting.key ≠ key := by
  have known : key ∈ Setting.all.map Setting.key ↔ ∃ setting : Setting, setting.key = key := by
    simp [Setting.mem_all]
  rw [unknownKeys, List.mem_mergeSort, List.mem_filter]
  simp [known]

theorem unknownKeys_ascending (distinct : (Keyed.keys members).Nodup) :
    (unknownKeys members).Pairwise (· < ·) := by
  have sorted : (unknownKeys members).Pairwise fun first second =>
      decide (first ≤ second) = true := by
    refine List.pairwise_mergeSort (fun first second third less more => ?_)
      (fun first second => ?_) _
    · simp only [decide_eq_true_eq] at less more ⊢
      exact String.le_trans less more
    · simpa using String.le_total first second
  have nodup : (unknownKeys members).Nodup :=
    (List.mergeSort_perm _ _).nodup_iff.2 (distinct.filter _)
  refine List.Pairwise.imp₂ (fun first second less different => ?_) sorted nodup
  rw [decide_eq_true_eq] at less
  exact String.not_le.1 fun more => different (String.le_antisymm less more)

/-- An ascending list is a matter of its members. -/
theorem eq_of_ascending {keys more : List String} (ascending : keys.Pairwise (· < ·))
    (ascendingToo : more.Pairwise (· < ·)) (same : ∀ key, key ∈ keys ↔ key ∈ more) :
    keys = more := by
  have perm : keys.Perm more := by
    refine (List.perm_ext_iff_of_nodup ?_ ?_).2 same
    · exact ascending.imp fun less => String.ne_of_lt less
    · exact ascendingToo.imp fun less => String.ne_of_lt less
  refine perm.eq_of_pairwise (fun first second _ _ less more => ?_) ascending ascendingToo
  exact absurd more (String.lt_asymm less)

theorem unknownKeys_eq_of_perm (perm : members.Perm others)
    (distinct : (Keyed.keys members).Nodup) :
    unknownKeys members = unknownKeys others := by
  have sameKeys := perm.map Prod.fst
  refine eq_of_ascending (unknownKeys_ascending distinct)
    (unknownKeys_ascending (sameKeys.nodup_iff.1 distinct)) ?_
  intro key
  rw [mem_unknownKeys, mem_unknownKeys, Keyed.keys, sameKeys.mem_iff, Keyed.keys]

/-! ### Tables of settings -/

theorem ofMembers_of_unknown (unknown : unknownKeys members ≠ []) :
    ofMembers members = .error (.unknownSettings (unknownKeys members)) := by
  have notEmpty : (unknownKeys members).isEmpty = false := by simpa using unknown
  simp only [ofMembers, notEmpty]
  rfl

theorem ofMembers_of_known (known : unknownKeys members = []) : ofMembers members = do
    return {
      margin := ← Setting.margin.read members
      xSpacing := ← Setting.xSpacing.read members
      ySpacing := ← Setting.ySpacing.read members
      maxPerRow := ← Setting.maxPerRow.read members } := by
  simp only [ofMembers, known]
  rfl

theorem ofMembers_eq_ok_iff : ofMembers members = .ok layout ↔
    unknownKeys members = [] ∧ ∀ setting : Setting,
    setting.read members = .ok (setting.of layout) := by
  by_cases known : unknownKeys members = []
  · rw [ofMembers_of_known known, and_iff_right known]
    simp only [Except.bind_eq_ok_iff]
    constructor
    · rintro ⟨margin, readMargin, width, readWidth, height, readHeight, rows, readRows, ⟨⟩⟩ setting
      cases setting with
      | margin => exact readMargin
      | xSpacing => exact readWidth
      | ySpacing => exact readHeight
      | maxPerRow => exact readRows
    · intro read
      exact ⟨_, read .margin, _, read .xSpacing, _, read .ySpacing, _, read .maxPerRow, rfl⟩
  · simp [ofMembers_of_unknown known, known]

/-- Where all keys are known, the fault is that of the first setting that has one. -/
theorem ofMembers_eq_error_iff {fault : FileFault} : ofMembers members = .error fault ↔
    unknownKeys members ≠ [] ∧ .unknownSettings (unknownKeys members) = fault ∨
      unknownKeys members = [] ∧ ∃ setting : Setting,
        (∀ earlier ∈ setting.before, ∃ number, earlier.read members = .ok number) ∧
          setting.read members = .error fault := by
  by_cases known : unknownKeys members = []
  · rw [ofMembers_of_known known]
    simp only [known, ne_eq, not_true_eq_false, false_and, false_or, true_and,
      Except.bind_eq_error_iff]
    constructor
    · rintro (failed | ⟨margin, readMargin, goesOn⟩)
      · exact ⟨.margin, by simp [Setting.before, Setting.all], failed⟩
      rcases goesOn with failed | ⟨width, readWidth, goesOn⟩
      · exact ⟨.xSpacing, by simp [Setting.before, Setting.all, readMargin], failed⟩
      rcases goesOn with failed | ⟨height, readHeight, goesOn⟩
      · exact ⟨.ySpacing, by simp [Setting.before, Setting.all, readMargin, readWidth], failed⟩
      rcases goesOn with failed | ⟨_, _, ⟨⟩⟩
      exact ⟨.maxPerRow, by simp [Setting.before, Setting.all, readMargin, readWidth, readHeight],
        failed⟩
    · rintro ⟨setting, fine, failed⟩
      cases setting with
      | margin => exact .inl failed
      | xSpacing =>
        rcases fine .margin (by decide) with ⟨margin, readMargin⟩
        exact .inr ⟨margin, readMargin, .inl failed⟩
      | ySpacing =>
        rcases fine .margin (by decide) with ⟨margin, readMargin⟩
        rcases fine .xSpacing (by decide) with ⟨width, readWidth⟩
        exact .inr ⟨margin, readMargin, .inr ⟨width, readWidth, .inl failed⟩⟩
      | maxPerRow =>
        rcases fine .margin (by decide) with ⟨margin, readMargin⟩
        rcases fine .xSpacing (by decide) with ⟨width, readWidth⟩
        rcases fine .ySpacing (by decide) with ⟨height, readHeight⟩
        exact .inr ⟨margin, readMargin,
          .inr ⟨width, readWidth, .inr ⟨height, readHeight, .inl failed⟩⟩⟩
  · simp [ofMembers_of_unknown known, known]

/-- The order of the members does not matter. -/
theorem ofMembers_eq_of_perm (perm : members.Perm others) (distinct : (Keyed.keys members).Nodup) :
    ofMembers members = ofMembers others := by
  have sameRead (setting : Setting) : setting.read members = setting.read others := by
    rw [Setting.read, Setting.read, Keyed.get?_eq_of_perm perm distinct]
  have sameUnknown := unknownKeys_eq_of_perm perm distinct
  by_cases known : unknownKeys members = []
  · rw [ofMembers_of_known known, ofMembers_of_known (sameUnknown ▸ known)]
    simp only [sameRead]
  · rw [ofMembers_of_unknown known, ofMembers_of_unknown (sameUnknown ▸ known), sameUnknown]

/-! ### Messages -/

/-- The words for a fault are its message unless they show an integer beyond the limit. -/
theorem FileFault.message_of_fits {limit? : Option Nat} {fault : FileFault}
    (fits : ∀ value ∈ fault.value?, value.fits limit? = true) :
    fault.message limit? = fault.words := by
  have isWithin : fault.value?.all (·.fits limit?) = true := by
    cases shown : fault.value? with
    | none => rfl
    | some value => exact fits value shown
  rw [message, isWithin]
  rfl

/-! ### Documents -/

/-- Every key is that of a setting and has a value that the setting allows. -/
def AreSettings (members : Toml.Members) : Prop :=
  ∀ member ∈ members, ∃ setting : Setting, setting.key = member.1 ∧ setting.Allows member.2

/-- A layout has the numbers that the members give, and the standard ones beside them. -/
def Overlays (members : Toml.Members) (layout : Layout) : Prop :=
  ∀ setting : Setting, Keyed.get? setting.key members = some (.integer (setting.of layout)) ∨
    Keyed.get? setting.key members = none ∧ setting.of layout = setting.of standard

/-- The layout that a document sets, if nothing is wrong with its settings. -/
inductive Sets (document : Toml.Members) : Layout → Prop where
  | standard (absent : Keyed.get? "layout" document = none) : Sets document standard
  | overlaid {members : Toml.Members} {layout : Layout}
      (found : Keyed.get? "layout" document = some (.table members))
      (areSettings : AreSettings members) (overlays : Overlays members layout) :
      Sets document layout

/-- The first fault in the settings of a document. -/
inductive IsFirstFault (document : Toml.Members) : FileFault → Prop where
  | notATable {value : Toml} (found : Keyed.get? "layout" document = some value)
      (isOther : ∀ members, value ≠ .table members) : IsFirstFault document (.notATable value)
  | unknownSettings {members : Toml.Members} {keys : List String}
      (found : Keyed.get? "layout" document = some (.table members)) (exist : keys ≠ [])
      (ascending : keys.Pairwise (· < ·))
      (unknown : ∀ key, key ∈ keys ↔ key ∈ Keyed.keys members ∧ ∀ setting : Setting,
        setting.key ≠ key) :
      IsFirstFault document (.unknownSettings keys)
  | badSetting {members : Toml.Members} {setting : Setting} {value : Toml}
      (found : Keyed.get? "layout" document = some (.table members))
      (known : ∀ key ∈ Keyed.keys members, ∃ setting : Setting, setting.key = key)
      (isValue : Keyed.get? setting.key members = some value) (refused : ¬setting.Allows value)
      (allowed : ∀ earlier ∈ setting.before, ∀ number,
        Keyed.get? earlier.key members = some number →
        earlier.Allows number) : IsFirstFault document (.badSetting setting value)

theorem unknownKeys_eq_nil_iff :
    unknownKeys members = [] ↔ ∀ key ∈ Keyed.keys members, ∃ setting : Setting,
    setting.key = key := by
  simp [List.eq_nil_iff_forall_not_mem, mem_unknownKeys]

theorem AreSettings.known (areSettings : AreSettings members) : unknownKeys members = [] := by
  refine unknownKeys_eq_nil_iff.2 fun key isKey => ?_
  rcases List.mem_map.1 isKey with ⟨member, mem, rfl⟩
  rcases areSettings member mem with ⟨setting, same, _⟩
  exact ⟨setting, same⟩

/-- A setting allows the value that is found under its key. -/
theorem AreSettings.allows (areSettings : AreSettings members)
    (distinct : (Keyed.keys members).Nodup) {setting : Setting} {value : Toml}
    (found : Keyed.get? setting.key members = some value) :
    setting.Allows value := by
  rcases areSettings _ ((Keyed.get?_eq_some_iff_mem distinct).1 found) with ⟨other, same, allows⟩
  exact Setting.key_injective same ▸ allows

theorem Setting.exists_read_iff {setting : Setting} :
    (∃ number, setting.read members = .ok number) ↔
    ∀ value, Keyed.get? setting.key members = some value → setting.Allows value := by
  rw [← not_iff_not, ← Except.exists_error_iff]
  simp only [read_eq_error_iff, not_forall]
  constructor
  · rintro ⟨_, value, found, refused, _⟩
    exact ⟨value, found, refused⟩
  · rintro ⟨value, found, refused⟩
    exact ⟨_, value, found, refused, rfl⟩

theorem ofMembers_eq_ok_iff_overlays (distinct : (Keyed.keys members).Nodup) :
    ofMembers members = .ok layout ↔ AreSettings members ∧ Overlays members layout := by
  rw [ofMembers_eq_ok_iff]
  constructor
  · rintro ⟨known, read⟩
    refine ⟨?_, fun setting => ?_⟩
    · rintro ⟨key, value⟩ mem
      rcases unknownKeys_eq_nil_iff.1 known key (List.mem_map_of_mem mem) with ⟨setting, rfl⟩
      exact ⟨setting, rfl, Setting.exists_read_iff.1 ⟨_, read setting⟩ value
        ((Keyed.get?_eq_some_iff_mem distinct).2 mem)⟩
    · rcases Setting.read_eq_ok_iff.1 (read setting) with ⟨absent, same⟩ | ⟨isNumber, _⟩
      · exact .inr ⟨absent, same.symm⟩
      · exact .inl isNumber
  · rintro ⟨areSettings, overlays⟩
    refine ⟨areSettings.known, fun setting => Setting.read_eq_ok_iff.2 ?_⟩
    rcases overlays setting with isNumber | ⟨absent, same⟩
    · rcases areSettings.allows distinct isNumber with ⟨_, ⟨⟩, allowed⟩
      exact .inr ⟨isNumber, allowed⟩
    · exact .inl ⟨absent, same.symm⟩

theorem exists_ofMembers_iff (distinct : (Keyed.keys members).Nodup) :
    (∃ layout, ofMembers members = .ok layout) ↔ AreSettings members := by
  constructor
  · rintro ⟨layout, isSet⟩
    exact ((ofMembers_eq_ok_iff_overlays distinct).1 isSet).1
  · intro areSettings
    by_contra fails
    rcases Except.exists_error_iff.2 fails with ⟨fault, failed⟩
    rcases ofMembers_eq_error_iff.1 failed with ⟨unknown, _⟩ | ⟨_, setting, _, failed⟩
    · exact unknown areSettings.known
    · rcases Setting.read_eq_error_iff.1 failed with ⟨value, found, refused, _⟩
      exact refused (areSettings.allows distinct found)

theorem ofDocument_of_table {document : Toml.Members}
    (found : Keyed.get? "layout" document = some (.table members)) :
    ofDocument document = ofMembers members := by
  rw [ofDocument, found]

theorem ofDocument_of_other {document : Toml.Members} {value : Toml}
    (found : Keyed.get? "layout" document = some value)
    (isOther : ∀ members, value ≠ .table members) :
    ofDocument document = .error (.notATable value) := by
  rw [ofDocument, found]
  cases value with
  | table members => exact absurd rfl (isOther members)
  | _ => rfl

theorem ofDocument_eq_ok_iff {document : Toml.Members} (orderly : (Toml.table document).Orderly) :
    ofDocument document = .ok layout ↔ Sets document layout := by
  constructor
  · intro isSet
    cases found : Keyed.get? "layout" document with
    | none =>
      rw [ofDocument, found] at isSet
      cases isSet
      exact .standard found
    | some value =>
      by_cases isTable : ∃ members, value = .table members
      · rcases isTable with ⟨members, rfl⟩
        have distinct := (orderly.of_get? found).distinct_keys
        rw [ofDocument_of_table found, ofMembers_eq_ok_iff_overlays distinct] at isSet
        exact .overlaid found isSet.1 isSet.2
      · rw [ofDocument_of_other found (not_exists.1 isTable)] at isSet
        cases isSet
  · rintro (absent | ⟨found, areSettings, overlays⟩)
    · rw [ofDocument, absent]
    · have distinct := (orderly.of_get? found).distinct_keys
      rw [ofDocument_of_table found, ofMembers_eq_ok_iff_overlays distinct]
      exact ⟨areSettings, overlays⟩

theorem ofDocument_eq_error_iff {document : Toml.Members} (orderly : (Toml.table document).Orderly)
    {fault : FileFault} : ofDocument document = .error fault ↔ IsFirstFault document fault := by
  constructor
  · intro fails
    cases found : Keyed.get? "layout" document with
    | none =>
      rw [ofDocument, found] at fails
      cases fails
    | some value =>
      by_cases isTable : ∃ members, value = .table members
      · rcases isTable with ⟨members, rfl⟩
        have distinct := (orderly.of_get? found).distinct_keys
        rw [ofDocument_of_table found, ofMembers_eq_error_iff] at fails
        rcases fails with ⟨unknown, rfl⟩ | ⟨known, setting, fine, failed⟩
        · exact .unknownSettings found unknown (unknownKeys_ascending distinct) fun key =>
            mem_unknownKeys
        · rcases Setting.read_eq_error_iff.1 failed with ⟨value, isValue, refused, rfl⟩
          exact .badSetting found (unknownKeys_eq_nil_iff.1 known) isValue refused
            fun earlier isEarlier => Setting.exists_read_iff.1 (fine earlier isEarlier)
      · have isOther := not_exists.1 isTable
        rw [ofDocument_of_other found isOther] at fails
        cases fails
        exact .notATable found isOther
  · rintro (⟨found, isOther⟩ | ⟨found, exist, ascending, unknown⟩ | ⟨found, known, isValue,
      refused, allowed⟩)
    · exact ofDocument_of_other found isOther
    · have distinct := (orderly.of_get? found).distinct_keys
      have same := eq_of_ascending ascending (unknownKeys_ascending distinct)
        fun key => (unknown key).trans mem_unknownKeys.symm
      rw [ofDocument_of_table found, ofMembers_eq_error_iff]
      exact .inl ⟨same ▸ exist, same ▸ rfl⟩
    · rw [ofDocument_of_table found, ofMembers_eq_error_iff]
      exact .inr ⟨unknownKeys_eq_nil_iff.2 known, _, fun earlier isEarlier =>
        Setting.exists_read_iff.2 (allowed earlier isEarlier),
        Setting.read_eq_error_iff.2 ⟨_, isValue, refused, rfl⟩⟩

/-- Two documents with the same members in their `layout` tables set the same. -/
theorem ofDocument_eq_of_perm {document other : Toml.Members}
    (orderly : (Toml.table document).Orderly)
    (found : Keyed.get? "layout" document = some (.table members))
    (foundToo : Keyed.get? "layout" other = some (.table others)) (perm : members.Perm others) :
    ofDocument document = ofDocument other := by
  rw [ofDocument_of_table found, ofDocument_of_table foundToo]
  exact ofMembers_eq_of_perm perm (orderly.of_get? found).distinct_keys

/-- Plain lines under the head of `layout` may stand in any order. -/
theorem ofDocument_eq_of_lines {limit? : Option Nat} {text otherText : List Char}
    {before after : List Toml.Statement} {document : Toml.Members}
    (read : Toml.parse limit? text = .ok document)
    (lines : Toml.statements? limit? text =
      some ⟨Toml.underHead "layout" before members after, none⟩)
    (otherLines : Toml.statements? limit? otherText =
      some ⟨Toml.underHead "layout" before others after, none⟩)
    (perm : members.Perm others) : ∃ other, Toml.parse limit? otherText = .ok other ∧
      ofDocument other = ofDocument document := by
  have alike := Toml.reordered_parse lines otherLines perm
  rw [read, Except.toOption] at alike
  cases isRead : Toml.parse limit? otherText with
  | error fault =>
    rw [isRead] at alike
    cases alike
  | ok other =>
    rw [isRead, Except.toOption, Option.rel_some_some] at alike
    rcases alike.inside with ⟨inside, insideToo, found, foundToo, _, permInside⟩
    exact ⟨other, rfl,
      (ofDocument_eq_of_perm (Toml.orderly_of_parse read) found foundToo permInside).symm⟩

/-- A document sets a layout exactly if it has no `layout`, or a table with settings and values that
they allow.  The layout is the standard one overlaid with the values.  Otherwise the fault is the
first one: `layout` is no table, there are unknown keys, a setting does not allow its value.  Its
words are the message, unless they show an integer beyond the limit.  Neither depends on the order
of the settings in the table, be it that of the members or that of the lines in the text. -/
theorem ofDocument_outcome {limit? : Option Nat} {text : List Char} {document : Toml.Members}
    (read : Toml.parse limit? text = .ok document) :
    ((∃ layout, ofDocument document = .ok layout) ↔ Keyed.get? "layout" document = none ∨
        ∃ members, Keyed.get? "layout" document = some (.table members) ∧ AreSettings members) ∧
      (∀ layout, ofDocument document = .ok layout ↔ Sets document layout) ∧
      (∀ fault, ofDocument document = .error fault ↔ IsFirstFault document fault) ∧
      (∀ fault, ofDocument document = .error fault →
        (∀ value ∈ fault.value?, value.fits limit? = true) →
        fault.message limit? = fault.words) ∧
      (∀ members others otherText other, Toml.parse limit? otherText = .ok other →
        Keyed.get? "layout" document = some (.table members) →
        Keyed.get? "layout" other = some (.table others) →
          members.Perm others → ofDocument other = ofDocument document) ∧
      ∀ before settings others after otherText,
        Toml.statements? limit? text = some ⟨Toml.underHead "layout" before settings after, none⟩ →
          Toml.statements? limit? otherText =
            some ⟨Toml.underHead "layout" before others after, none⟩ →
            settings.Perm others → ∃ other, Toml.parse limit? otherText = .ok other ∧
              ofDocument other = ofDocument document := by
  have orderly := Toml.orderly_of_parse read
  refine ⟨?_, fun _ => ofDocument_eq_ok_iff orderly, fun _ => ofDocument_eq_error_iff orderly,
    fun _ _ fits => FileFault.message_of_fits fits, ?_, ?_⟩
  · simp only [ofDocument_eq_ok_iff orderly]
    constructor
    · rintro ⟨layout, absent | ⟨found, areSettings, _⟩⟩
      · exact .inl absent
      · exact .inr ⟨_, found, areSettings⟩
    · rintro (absent | ⟨members, found, areSettings⟩)
      · exact ⟨_, .standard absent⟩
      · have distinct := (orderly.of_get? found).distinct_keys
        rcases (exists_ofMembers_iff distinct).2 areSettings with ⟨layout, isSet⟩
        have overlays := ((ofMembers_eq_ok_iff_overlays distinct).1 isSet).2
        exact ⟨layout, .overlaid found areSettings overlays⟩
  · intro members others _ other _ found foundToo perm
    exact (ofDocument_eq_of_perm orderly found foundToo perm).symm
  · intro _ _ _ _ _ lines otherLines perm
    exact ofDocument_eq_of_lines read lines otherLines perm

/-- A text in which two settings are bad, and the one that is looked at first stands last. -/
def twiceBad : List Char := "[layout]\nx_spacing = true\nmargin = -1\n[more]".toList

def twiceBadTurned : List Char := "[layout]\nmargin = -1\nx_spacing = true\n[more]".toList

def twiceBadDocument : Toml.Members :=
  [("layout", .table [("x_spacing", .boolean true), ("margin", .integer (-1))]),
    ("more", .table [])]

theorem isFirstFault_twiceBad :
    IsFirstFault twiceBadDocument (.badSetting .margin (.integer (-1))) := by
  refine .badSetting rfl (fun key isKey => ?_) rfl ?_ ?_
  · rcases List.mem_cons.1 isKey with rfl | isKey
    · exact ⟨.xSpacing, rfl⟩
    · exact ⟨.margin, (List.mem_singleton.1 isKey).symm⟩
  · rintro ⟨_, ⟨⟩, allowed⟩
    exact absurd allowed (by decide)
  · rintro _ ⟨⟩

theorem ofDocument_outcome_twiceBad : Toml.parse usualLimit twiceBad = .ok twiceBadDocument ∧
    ofDocument twiceBadDocument = .error (.badSetting .margin (.integer (-1))) ∧
    FileFault.message usualLimit (.badSetting .margin (.integer (-1))) =
      "Layout setting margin must be an integer >= 0, got -1" ∧
    ∃ other, Toml.parse usualLimit twiceBadTurned = .ok other ∧
      ofDocument other = .error (.badSetting .margin (.integer (-1))) := by
  have lines : Toml.statements? usualLimit twiceBad = some ⟨Toml.underHead "layout" []
      [("x_spacing", .boolean true), ("margin", .integer (-1))] [.tableHead ["more"]], none⟩ := by
    cbv
  have turned : Toml.statements? usualLimit twiceBadTurned = some ⟨Toml.underHead "layout" []
      [("margin", .integer (-1)), ("x_spacing", .boolean true)] [.tableHead ["more"]], none⟩ := by
    cbv
  have read : Toml.parse usualLimit twiceBad = .ok twiceBadDocument :=
    Toml.parse_eq_ok_iff.2 ⟨_, lines, rfl⟩
  rcases ofDocument_outcome read with ⟨_, _, faults, messages, _, ofLines⟩
  have isFault := (faults _).2 isFirstFault_twiceBad
  have fits : ∀ value ∈ (FileFault.badSetting .margin (.integer (-1))).value?,
      value.fits usualLimit = true := by
    decide +kernel
  refine ⟨read, isFault, (messages _ isFault fits).trans (by decide +kernel), ?_⟩
  rw [← isFault]
  exact ofLines _ _ _ _ _ lines turned (.swap _ _ _)

/-- A text in which the settings stand in an item of an array of tables. -/
def itemText : List Char := "[[layout]]\nmargin = 1\nx_spacing = 2".toList

def itemTurnedText : List Char := "[[layout]]\nx_spacing = 2\nmargin = 1".toList

/-- An array of tables is shown with its members in their order, so that the order of the lines
shows in the message. -/
theorem message_of_turned_item : ∃ first second document other fault otherFault,
    Toml.statements? usualLimit itemText = some ⟨[.itemHead ["layout"], first, second], none⟩ ∧
      Toml.statements? usualLimit itemTurnedText =
        some ⟨[.itemHead ["layout"], second, first], none⟩ ∧
      Toml.parse usualLimit itemText = .ok document ∧ Toml.parse usualLimit itemTurnedText =
        .ok other ∧
      ofDocument document = .error fault ∧ ofDocument other = .error otherFault ∧
      FileFault.message usualLimit fault ≠ FileFault.message usualLimit otherFault := by
  have lines : Toml.statements? usualLimit itemText = some ⟨[.itemHead ["layout"],
      .member ["margin"] (.integer 1), .member ["x_spacing"] (.integer 2)], none⟩ := by cbv
  have turned : Toml.statements? usualLimit itemTurnedText = some ⟨[.itemHead ["layout"],
      .member ["x_spacing"] (.integer 2), .member ["margin"] (.integer 1)], none⟩ := by cbv
  exact ⟨_, _, _, _, _, _, lines, turned, Toml.parse_eq_ok_iff.2 ⟨_, lines, rfl⟩,
    Toml.parse_eq_ok_iff.2 ⟨_, turned, rfl⟩, rfl, rfl, by decide +kernel⟩

end Layout

end Schemagram
