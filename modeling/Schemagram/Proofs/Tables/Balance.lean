import Schemagram.Proofs.Scan.Search
import Schemagram.Proofs.Tables.Binding
import Schemagram.Schema

/-!
# Every reference is accounted for

A text mentions references, and each of them makes a key.  At every step of reading it, the keys
that the tables own and the reports of dropped references balance the references that were
mentioned: each of them is either among the keys or among the reports, as often as it is mentioned.

The step lemmas say that attaching a key adds one to one of the two sides, and that dropping the
keys that lead nowhere moves them from the first to the second.
-/

namespace Schemagram

/-- A reference that is mentioned in a text: its key, the table that should own it, and the way in
which it is written if it stands between two tables. -/
structure Mention where
  owner : String
  key : ForeignKey
  written? : Option String := none
  deriving DecidableEq

namespace Event

/-- Whether an event is reported as a dropped reference. -/
def isDrop (event : Event) : Bool := "Dropped reference ".toList.isPrefixOf event.message.toList

theorem isDrop_iff {event : Event} :
    event.isDrop = true ↔ ∃ rest, event.message = "Dropped reference " ++ rest := by
  rw [isDrop, List.isPrefixOf_iff_prefix]
  constructor
  · rintro ⟨rest, split⟩
    exact ⟨String.ofList rest, by simpa [← String.toList_inj] using split.symm⟩
  · rintro ⟨rest, split⟩
    exact ⟨rest.toList, by rw [split, String.toList_append]⟩

theorem isDrop_keyDropped (owner : String) (key : ForeignKey) (reason : Unresolved) :
    (keyDropped owner key reason).isDrop = true := by
  rw [isDrop_iff]
  change ∃ rest, "Dropped reference " ++ owner ++ "." ++ key.column ++ " -> " ++
      key.referenceTable ++ "." ++
      key.referenceColumn ++ ": " ++ reason.message = "Dropped reference " ++ rest
  simp only [String.append_assoc]
  exact ⟨_, rfl⟩

theorem isDrop_referenceDropped (written : String) : (referenceDropped written).isDrop = true := by
  rw [isDrop_iff]
  exact ⟨written ++ ": unknown table", String.append_assoc⟩

/-- A message with another first letter reports no dropped reference. -/
theorem isDrop_eq_false {event : Event} {letter : Char}
    (starts : event.message.toList.head? = some letter) (different : letter ≠ 'D') :
    event.isDrop = false := by
  rw [← Bool.not_eq_true, isDrop_iff]
  rintro ⟨rest, same⟩
  rw [same, String.toList_append] at starts
  exact different (Option.some.inj starts).symm

theorem isDrop_tablesRead (dialect : Dialect) (count : Nat) :
    (tablesRead dialect count).isDrop = false := by
  refine isDrop_eq_false ?_ (by decide : 'P' ≠ 'D')
  change ("Parsed " ++ Decimal.text count ++ " table(s) from " ++ dialect.title).toList.head? =
    some 'P'
  simp only [String.append_assoc, String.toList_append]
  rfl

theorem isDrop_enumsAttached (names : List String) : (enumsAttached names).isDrop = false := by
  refine isDrop_eq_false ?_ (by decide : 'P' ≠ 'D')
  change ("Propagated " ++ Decimal.text names.length ++ " enum(s): " ++
    String.intercalate ", " names).toList.head? = some 'P'
  simp only [String.append_assoc, String.toList_append]
  rfl

/-- An event that reports a mentioned reference. -/
inductive Reports (mention : Mention) : Event → Prop where
  | key (reason : Unresolved) : Reports mention (keyDropped mention.owner mention.key reason)
  | reference {written : String} (isWritten : mention.written? = some written) :
    Reports mention (referenceDropped written)

theorem Reports.isDrop {mention : Mention} {event : Event} (reports : event.Reports mention) :
    event.isDrop = true := by
  cases reports with
  | key reason => exact isDrop_keyDropped _ _ _
  | reference isWritten => exact isDrop_referenceDropped _

end Event

namespace Table

/-- The keys of a table with its name. -/
def ownedKeys (table : Table) : List (String × ForeignKey) := table.foreignKeys.map (table.name, ·)

theorem ownedKeys_withKey (table : Table) (key : ForeignKey) :
    (table.withKey key).ownedKeys = table.ownedKeys ++ [(table.name, key)] := by
  simp [ownedKeys, withKey]

/-- A key that is attached is owned by a table of its owner's name; otherwise no table is
changed. -/
theorem attach_cases (tables : List Table) (owner : String) (key : ForeignKey) :
    ((attach tables owner key).events = [] ∧
      ((attach tables owner key).result.flatMap ownedKeys).Perm
        ((owner, key) :: tables.flatMap ownedKeys)) ∨
    ((attach tables owner key).events = [.keyDropped owner key .unknownTable] ∧
      (attach tables owner key).result = tables) := by
  unfold attach
  cases attached : attach? tables owner key with
  | none => exact .inr ⟨rfl, rfl⟩
  | some changed =>
    left
    rcases changeFirst?_eq_some.1 attached with
      ⟨before, table, after, new, rfl, _, isOwner, isNew, rfl⟩
    cases isNew
    rw [decide_eq_true_eq] at isOwner
    refine ⟨rfl, ?_⟩
    have moved := @List.perm_middle _ (owner, key) (before.flatMap ownedKeys ++ table.ownedKeys)
      (after.flatMap ownedKeys)
    simpa [List.flatMap_append, List.flatMap_cons, ownedKeys_withKey, isOwner] using moved

/-- The keys that are left are those that lead somewhere. -/
theorem ownedKeys_dropDangling (tables : List Table) :
    (dropDangling tables).result.flatMap ownedKeys =
      (tables.flatMap ownedKeys).filter fun owned => (unresolved? tables owned.2).isNone := by
  rw [dropDangling, List.flatMap_map, List.filter_flatMap]
  refine congrArg (List.flatMap · tables) (funext fun table => ?_)
  rw [ownedKeys, ownedKeys, withoutDangling, List.filter_map]
  rfl

/-- The keys that lead nowhere are reported, and nothing else. -/
theorem events_dropDangling (tables : List Table) :
    (dropDangling tables).events = (tables.flatMap ownedKeys).filterMap fun owned =>
      (unresolved? tables owned.2).map (Event.keyDropped owned.1 owned.2) := by
  rw [dropDangling, List.filterMap_flatMap]
  refine congrArg (List.flatMap · tables) (funext fun table => ?_)
  rw [ownedKeys, danglingEvents, List.filterMap_map]
  rfl

theorem ownedKeys_attachEnums (enums : Enums) (tables : List Table) :
    (attachEnums enums tables).result.flatMap ownedKeys = tables.flatMap ownedKeys := by
  rw [attachEnums, List.flatMap_map]
  rfl

theorem isDrop_attachEnums (enums : Enums) (tables : List Table) :
    ∀ event ∈ (attachEnums enums tables).events, event.isDrop = false := by
  unfold attachEnums
  split
  · simp
  · simpa using Event.isDrop_enumsAttached _

end Table

/-! ### The balance -/

namespace Mention

/-- The key of a mention with the table that should own it. -/
def owned (mention : Mention) : String × ForeignKey := (mention.owner, mention.key)

/-- Whether the key of a mention leads somewhere. -/
def resolves (tables : List Table) (mention : Mention) : Bool :=
  (Table.unresolved? tables mention.key).isNone

/-- The mentions whose keys lead nowhere, with their reports. -/
def dangling (tables : List Table) (mentions : List Mention) : List (Mention × Event) :=
  mentions.filterMap fun mention => (Table.unresolved? tables mention.key).map fun reason =>
    (mention, .keyDropped mention.owner mention.key reason)

variable {tables : List Table} {mentions : List Mention}

theorem reports_of_mem_dangling {pair : Mention × Event} (mem : pair ∈ dangling tables mentions) :
    pair.2.Reports pair.1 := by
  rcases List.mem_filterMap.1 mem with ⟨mention, _, isReport⟩
  rcases Option.map_eq_some_iff.1 isReport with ⟨reason, _, rfl⟩
  exact .key reason

theorem map_fst_dangling :
    (dangling tables mentions).map Prod.fst = mentions.filter (!resolves tables ·) := by
  rw [dangling, List.map_filterMap, ← List.filterMap_eq_filter]
  refine congrArg (List.filterMap · mentions) (funext fun mention => ?_)
  cases unresolved : Table.unresolved? tables mention.key <;>
    simp [resolves, Option.guard, unresolved]

/-- Where the keys of the mentions are those of the tables, their reports are those of the
tables. -/
theorem map_snd_dangling (keys : (tables.flatMap Table.ownedKeys).Perm (mentions.map owned)) :
    ((dangling tables mentions).map Prod.snd).Perm (Table.dropDangling tables).events := by
  rw [Table.events_dropDangling]
  refine .trans (.of_eq ?_) (keys.filterMap _).symm
  rw [dangling, List.map_filterMap, List.filterMap_map]
  exact congrArg (List.filterMap · mentions) (funext fun mention => Option.map_map _ _ _)

end Mention

/-- The keys of the tables and the reports of dropped references balance the references that have
been mentioned: each of them is kept as a key or reported, and there are no other keys and
reports. -/
def Balanced (mentions : List Mention) (tables : List Table) (events : List Event) : Prop :=
  ∃ (kept : List Mention) (reported : List (Mention × Event)),
    mentions.Perm (kept ++ reported.map Prod.fst) ∧
    (tables.flatMap Table.ownedKeys).Perm (kept.map Mention.owned) ∧
    (events.filter Event.isDrop).Perm (reported.map Prod.snd) ∧
    ∀ pair ∈ reported, pair.2.Reports pair.1

/-- A step that takes a mentioned reference in: one more key is owned, or the reference is
reported. -/
def TakesIn (mention : Mention) (tables : List Table) (step : Logged (List Table)) : Prop :=
  (step.events = [] ∧ (step.result.flatMap Table.ownedKeys).Perm
    (mention.owned :: tables.flatMap Table.ownedKeys)) ∨
  ∃ event, event.Reports mention ∧ step.events = [event] ∧ step.result = tables

theorem takesIn_attach (tables : List Table) (mention : Mention) :
    TakesIn mention tables (Table.attach tables mention.owner mention.key) := by
  rcases Table.attach_cases tables mention.owner mention.key with attached | ⟨reported, same⟩
  · exact .inl attached
  · exact .inr ⟨_, .key .unknownTable, reported, same⟩

namespace Balanced

variable {mentions : List Mention} {tables : List Table} {events : List Event}

/-- The number of keys and the number of reports add up to the number of references. -/
theorem count (balanced : Balanced mentions tables events) :
    (tables.flatMap Table.foreignKeys).length + events.countP Event.isDrop = mentions.length := by
  rcases balanced with ⟨kept, reported, split, keys, drops, _⟩
  have keyCount : (tables.flatMap Table.foreignKeys).length = kept.length := by
    rw [← List.length_map Mention.owned, ← keys.length_eq, List.length_flatMap, List.length_flatMap]
    simp [Table.ownedKeys]
  have dropCount : events.countP Event.isDrop = reported.length := by
    rw [List.countP_eq_length_filter, drops.length_eq, List.length_map]
  rw [keyCount, dropCount, split.length_eq, List.length_append, List.length_map]

theorem of_ownedKeys (owned : (tables.flatMap Table.ownedKeys).Perm (mentions.map Mention.owned)) :
    Balanced mentions tables [] :=
  ⟨mentions, [], by simp, owned, .nil, by simp⟩

/-- Events that report no dropped reference do not change the balance. -/
theorem append_events (balanced : Balanced mentions tables events) {more : List Event}
    (noDrops : ∀ event ∈ more, event.isDrop = false) :
    Balanced mentions tables (events ++ more) := by
  rcases balanced with ⟨kept, reported, split, keys, drops, reports⟩
  have none : more.filter Event.isDrop = [] := by simpa [List.filter_eq_nil_iff] using noDrops
  exact ⟨kept, reported, split, keys, by rwa [List.filter_append, none, List.append_nil], reports⟩

/-- The references inside tables are keys from the start. -/
theorem tablesRead (owned : tables.flatMap Table.ownedKeys = mentions.map Mention.owned)
    (dialect : Dialect) : Balanced mentions tables [.tablesRead dialect tables.length] :=
  (of_ownedKeys (.of_eq owned)).append_events (by simpa using Event.isDrop_tablesRead _ _)

theorem perm (balanced : Balanced mentions tables events) {others : List Mention}
    (perm : mentions.Perm others) : Balanced others tables events := by
  rcases balanced with ⟨kept, reported, split, rest⟩
  exact ⟨kept, reported, perm.symm.trans split, rest⟩

theorem takesIn (balanced : Balanced mentions tables events) {mention : Mention}
    {step : Logged (List Table)} (takes : TakesIn mention tables step) :
    Balanced (mention :: mentions) step.result (events ++ step.events) := by
  rcases balanced with ⟨kept, reported, split, keys, drops, reports⟩
  rcases takes with ⟨noEvents, owned⟩ | ⟨event, isReport, isEvent, sameTables⟩
  · rw [noEvents, List.append_nil]
    exact ⟨mention :: kept, reported, split.cons mention, owned.trans (keys.cons _), drops, reports⟩
  · rw [isEvent, sameTables]
    refine ⟨kept, (mention, event) :: reported, ?_, keys, ?_, ?_⟩
    · exact (split.cons mention).trans List.perm_middle.symm
    · rw [List.filter_append, List.filter_cons_of_pos isReport.isDrop, List.filter_nil]
      exact (List.perm_append_singleton _ _).trans (drops.cons event)
    · exact List.forall_mem_cons.2 ⟨isReport, reports⟩

/-- A fold whose steps take in one reference each takes in all of them. -/
theorem foldlM {Item : Type} {step : List Table → Item → Logged (List Table)}
    {mentionOf : Item → Mention}
    (takes : ∀ tables item, TakesIn (mentionOf item) tables (step tables item)) (items : List Item)
    (balanced : Balanced mentions tables events) :
    Balanced (mentions ++ items.map mentionOf) (items.foldlM step tables).result
      (events ++ (items.foldlM step tables).events) := by
  induction items generalizing mentions tables events with
  | nil => simpa using balanced
  | cons item more ih =>
    rw [List.foldlM_cons, Logged.result_bind, Logged.events_bind, List.map_cons,
      ← List.append_assoc]
    exact (ih (balanced.takesIn (takes tables item))).perm List.perm_middle.symm

/-- A kept reference whose key leads nowhere is reported instead. -/
theorem dropDangling (balanced : Balanced mentions tables events) :
    Balanced mentions (Table.dropDangling tables).result
      (events ++ (Table.dropDangling tables).events) := by
  rcases balanced with ⟨kept, reported, split, keys, drops, reports⟩
  have newEvents := Mention.map_snd_dangling keys
  have areDrops : (Table.dropDangling tables).events.filter Event.isDrop =
      (Table.dropDangling tables).events := by
    rw [List.filter_eq_self]
    intro event mem
    rcases List.mem_map.1 (newEvents.mem_iff.2 mem) with ⟨pair, pairMem, rfl⟩
    exact (Mention.reports_of_mem_dangling pairMem).isDrop
  refine ⟨kept.filter (Mention.resolves tables), reported ++ Mention.dangling tables kept, ?_,
    ?_, ?_, ?_⟩
  -- The kept references are divided by whether their keys lead somewhere.
  · rw [List.map_append, Mention.map_fst_dangling]
    have divided := (List.filter_append_perm (Mention.resolves tables) kept).symm
    refine split.trans ((divided.append_right _).trans ?_)
    rw [List.append_assoc]
    exact List.perm_append_comm.append_left _
  · rw [Table.ownedKeys_dropDangling]
    refine (keys.filter _).trans ?_
    rw [List.filter_map]
    exact .rfl
  · rw [List.filter_append, List.map_append, areDrops]
    exact drops.append newEvents.symm
  · exact List.forall_mem_append.2 ⟨reports, fun _ mem => Mention.reports_of_mem_dangling mem⟩

/-- Settling keeps the balance: enums change no key and report no reference. -/
theorem settle (balanced : Balanced mentions tables events) (enums : Enums) :
    Balanced mentions (Table.settle enums tables).result
    (events ++ (Table.settle enums tables).events) := by
  have dropped := balanced.dropDangling.append_events
    (Table.isDrop_attachEnums enums (Table.dropDangling tables).result)
  rcases dropped with ⟨kept, reported, split, keys, rest⟩
  rw [Table.settle, Logged.result_bind, Logged.events_bind, ← List.append_assoc]
  exact ⟨kept, reported, split, by rwa [Table.ownedKeys_attachEnums], rest⟩

end Balanced

/-! ### The references of the dialects -/

namespace Sql

/-- The foreign keys among the fragments of a table's body. -/
def mentionsOf (name : String) (body : List Char) : List Mention :=
  (Text.splitOn ',' body).filterMap fun piece =>
    (Scan.search foreignKey (Text.trim piece)).map fun key => { owner := name, key }

/-- The foreign keys among the fragments of a text. -/
def mentions (text : List Char) : List Mention :=
  (Scan.all tableStatement text).flatMap fun (name, body) => mentionsOf name body

theorem key?_fragmentOf (fragment : List Char) :
    (fragmentOf fragment).key? = Scan.search foreignKey fragment := by
  unfold fragmentOf
  cases Scan.search foreignKey fragment with
  | some key => rfl
  | none => cases Scan.search column fragment <;> rfl

theorem ownedKeys_tables (text : List Char) :
    (tables text).flatMap Table.ownedKeys = (mentions text).map Mention.owned := by
  have ofTable (name : String) (body : List Char) :
      (tableOf name body).ownedKeys = (mentionsOf name body).map Mention.owned := by
    simp only [Table.ownedKeys, tableOf, fragments, mentionsOf, List.filterMap_map,
      List.map_filterMap]
    refine congrArg (List.filterMap · _) (funext fun piece => ?_)
    rw [Function.comp_apply, key?_fragmentOf, Option.map_map]
    rfl
  rw [tables, mentions, List.flatMap_map, List.map_flatMap]
  exact congrArg (List.flatMap · _) (funext fun statement => ofTable statement.1 statement.2)

theorem balanced_parse (text : List Char) :
    Balanced (mentions text) (parse text).result (parse text).events :=
  (Balanced.tablesRead (ownedKeys_tables text) .sql).settle (enums text)

end Sql

namespace Dbml

def mentionOf (reference : Reference) : Mention where
  owner := reference.owner
  key := reference.key

/-- The references of a text. -/
def mentions (text : List Char) : List Mention := (references text).map mentionOf

theorem balanced_parse (text : List Char) :
    Balanced (mentions text) (parse text).result (parse text).events := by
  have noKeys : (tables text).flatMap Table.ownedKeys = [] := by
    simp [tables, Table.ownedKeys, List.flatMap_map]
  have takes (tables : List Table) (reference : Reference) : TakesIn (mentionOf reference) tables
      (Table.attach tables reference.owner reference.key) :=
    takesIn_attach tables (mentionOf reference)
  have start : Balanced [] (tables text) [.tablesRead .dbml (tables text).length] :=
    Balanced.tablesRead noKeys .dbml
  have settled := (start.foldlM takes (references text)).settle (enums text)
  rwa [List.append_assoc] at settled

end Dbml

namespace Shorthand

/-- The reference of a line: the column that refers, and the arrow with the other column. -/
def lineReference? (line : List Char) : Option (String × Target) :=
  (Scan.search inlineReference line).or do
    let column ← column? line
    let target ← Scan.search optionReference line
    return (column.name, target)

/-- The references on the lines of a table that point to the other column. -/
def mentionsOf (name : String) (inside : List Char) : List Mention :=
  (linesOf inside).filterMap fun line => do
    let (column, target) ← lineReference? line
    let key ← keyOf? column target
    return { owner := name, key }

theorem length_mentionsOf (name : String) (inside : List Char) : (mentionsOf name inside).length =
    (linesOf inside).countP fun line =>
      (lineReference? line).any fun reference => reference.2.arrow = '>' := by
  rw [mentionsOf, List.length_filterMap_eq_countP]
  refine congrArg (List.countP · _) (funext fun line => ?_)
  cases lineReference? line with
  | none => rfl
  | some reference =>
    by_cases isKey : reference.2.arrow = '>' <;> simp [keyOf?, isKey]

/-- The reference between two tables, with the text in which it is written. -/
def mentionOf (written : List Char × Reference) : Mention where
  owner := written.2.source.1
  key := written.2.key
  written? := some (String.ofList (Text.trim written.1))

/-- The references of a text: those inside the tables, and those between tables. -/
def mentions (text : List Char) : List Mention :=
  ((Scan.all (Scan.block (Scan.exactly "Table")) text).flatMap fun (name, inside) =>
    mentionsOf name inside) ++ (references text).map mentionOf

theorem lineKey?_eq (line : List Char) : lineKey? line (column? line) =
    (lineReference? line).bind fun (column, target) => keyOf? column target := by
  unfold lineKey? lineReference?
  cases Scan.search inlineReference line with
  | some reference => rfl
  | none =>
    cases column? line with
    | none => rfl
    | some column => cases Scan.search optionReference line <;> rfl

theorem ownedKeys_tables (text : List Char) : (tables text).flatMap Table.ownedKeys =
    ((Scan.all (Scan.block (Scan.exactly "Table")) text).flatMap fun (name, inside) =>
      mentionsOf name inside).map Mention.owned := by
  have ofTable (name : String) (inside : List Char) :
      (tableOf name inside).ownedKeys = (mentionsOf name inside).map Mention.owned := by
    simp only [Table.ownedKeys, tableOf, mentionsOf, List.map_filterMap, lineKey?_eq]
    refine congrArg (List.filterMap · _) (funext fun line => ?_)
    cases lineReference? line with
    | none => rfl
    | some reference =>
      change (keyOf? reference.1 reference.2).map _ =
        ((keyOf? reference.1 reference.2).bind _).map _
      cases keyOf? reference.1 reference.2 <;> rfl
  rw [tables, List.flatMap_map, List.map_flatMap]
  exact congrArg (List.flatMap · _) (funext fun block => ofTable block.1 block.2)

theorem takesIn_attach (tables : List Table) (written : List Char × Reference) :
    TakesIn (mentionOf written) tables (attach tables written) := by
  unfold attach
  dsimp only
  split
  · exact Schemagram.takesIn_attach tables (mentionOf written)
  · exact .inr ⟨_, .reference rfl, rfl, rfl⟩

theorem balanced_parse (text : List Char) :
    Balanced (mentions text) (parse text).result (parse text).events := by
  have start := Balanced.tablesRead (ownedKeys_tables text) .shorthand
  have settled := (start.foldlM takesIn_attach (references text)).settle (enums text)
  rwa [List.append_assoc] at settled

end Shorthand

namespace Dialect

/-- The references that a text in some dialect mentions. -/
def mentions : Dialect → List Char → List Mention
  | .sql => Sql.mentions
  | .dbml => Dbml.mentions
  | .shorthand => Shorthand.mentions

/-- How often the pattern of a reference occurs in a text: as a foreign key in a fragment of a
table's body; as a reference between two columns; or as a reference with the arrow `>` on a line of
a table, or one between two dotted columns. -/
def referenceCount (text : List Char) : Dialect → Nat
  | .sql =>
    ((Scan.all Sql.tableStatement text).flatMap fun (_, body) => Text.splitOn ',' body).countP
      fun piece =>
      (Scan.search Sql.foreignKey (Text.trim piece)).isSome
  | .dbml => (Scan.all Dbml.reference text).length
  | .shorthand =>
    ((Scan.all (Scan.block (Scan.exactly "Table")) text).flatMap fun (_, inside) =>
        linesOf inside).countP
        (fun line => (Shorthand.lineReference? line).any fun reference => reference.2.arrow = '>') +
      (Scan.all Shorthand.reference text).length

theorem balanced_parse (dialect : Dialect) (text : List Char) :
    Balanced (dialect.mentions text) (dialect.parse text).result (dialect.parse text).events := by
  cases dialect with
  | sql => exact Sql.balanced_parse text
  | dbml => exact Dbml.balanced_parse text
  | shorthand => exact Shorthand.balanced_parse text

theorem length_mentions (dialect : Dialect) (text : List Char) :
    (dialect.mentions text).length = dialect.referenceCount text := by
  cases dialect with
  | sql =>
    simp only [mentions, referenceCount, Sql.mentions, Sql.mentionsOf, List.length_flatMap,
      List.countP_flatMap, List.length_filterMap_eq_countP, Option.isSome_map]
    rfl
  | dbml => exact List.length_map _
  | shorthand =>
    have sameLength : (Shorthand.references text).length =
        (Scan.all Shorthand.reference text).length := by
      rw [← Scan.map_snd_all_withText, List.length_map]
      rfl
    simp only [mentions, referenceCount, Shorthand.mentions, List.length_append, List.length_map,
      List.length_flatMap, List.countP_flatMap, Shorthand.length_mentionsOf, sameLength]
    rfl

/-- Whatever the text, the foreign keys of the tables that are read from it and the reports of
dropped references are together as many as the references that it mentions.  Each reference is
either kept as a key or reported, never both, and there are no other keys and reports. -/
theorem references_balance (dialect : Dialect) (text : List Char) :
    ((dialect.parse text).result.flatMap Table.foreignKeys).length +
        (dialect.parse text).events.countP Event.isDrop = dialect.referenceCount text ∧
      (dialect.mentions text).length = dialect.referenceCount text ∧
      Balanced (dialect.mentions text) (dialect.parse text).result (dialect.parse text).events := by
  have balanced := dialect.balanced_parse text
  exact ⟨balanced.count.trans (dialect.length_mentions text),
    dialect.length_mentions text, balanced⟩

end Dialect

end Schemagram
