import Mathlib.Data.List.Pairwise
import Mathlib.Data.List.Nodup
import Mathlib.Tactic.Linarith
import Schemagram.Diagram.LayoutFile
import Schemagram.Proofs.Diagram.Building
import Schemagram.Proofs.Results

/-!
# Entities on the grid

An index is a row and a column of the grid, the quotient and the remainder by the number of entities
in a row.  Where rows are not empty the two determine the index, so that two entities stand at one
place only if a distance between neighbours is zero.

A layout file sets a layout with nonempty rows and positive distances.  Along the indexes the
entities of such a layout stand in reading order: row by row downwards, and from left to right in
each row.
-/

namespace Schemagram

/-- Read before another place: in a row above it, or to the left of it in its row. -/
def Position.Before (first second : Position) : Prop :=
  first.y < second.y ∨ first.y = second.y ∧ first.x < second.x

theorem Position.Before.ne {first second : Position} (before : first.Before second) :
    first ≠ second := by
  rintro rfl
  rcases before with above | ⟨_, left⟩
  · exact lt_irrefl _ above
  · exact lt_irrefl _ left

namespace Layout

variable {layout : Layout}

/-! ### Places -/

/-- The row and the column of an index give the index back. -/
theorem row_column (layout : Layout) (index : Int) :
    layout.maxPerRow * index.fdiv layout.maxPerRow + index.fmod layout.maxPerRow = index :=
  Int.mul_fdiv_add_fmod index layout.maxPerRow

theorem place_injective (hasWidth : layout.xSpacing ≠ 0) (hasHeight : layout.ySpacing ≠ 0) :
    Function.Injective layout.place := by
  intro index other same
  rw [place, place, Position.mk.injEq, add_right_inj, add_right_inj] at same
  have sameColumn := mul_right_cancel₀ hasWidth same.1
  have sameRow := mul_right_cancel₀ hasHeight same.2
  rw [← row_column layout index, ← row_column layout other, sameRow, sameColumn]

/-- A layout as files set it: with nonempty rows, distances between neighbours, and no negative
margin. -/
def IsUsable (layout : Layout) : Prop := ∀ setting : Setting, setting.least ≤ setting.of layout

theorem isUsable_iff : layout.IsUsable ↔
    0 ≤ layout.margin ∧ 1 ≤ layout.xSpacing ∧ 1 ≤ layout.ySpacing ∧ 1 ≤ layout.maxPerRow := by
  constructor
  · intro usable
    exact ⟨usable .margin, usable .xSpacing, usable .ySpacing, usable .maxPerRow⟩
  · rintro ⟨margin, width, height, rows⟩ setting
    cases setting with
    | margin => exact margin
    | xSpacing => exact width
    | ySpacing => exact height
    | maxPerRow => exact rows

theorem isUsable_standard : standard.IsUsable := isUsable_iff.2 (by decide)

/-- Along the indexes the places are in reading order. -/
theorem place_before (usable : layout.IsUsable) {index other : Int} (less : index < other) :
    (layout.place index).Before (layout.place other) := by
  rcases isUsable_iff.1 usable with ⟨_, width, height, rows⟩
  have inRows : index.fdiv layout.maxPerRow ≤ other.fdiv layout.maxPerRow := by
    rw [Int.fdiv_eq_ediv_of_nonneg _ (by omega), Int.fdiv_eq_ediv_of_nonneg _ (by omega)]
    exact Int.ediv_le_ediv (by omega) less.le
  rcases inRows.lt_or_eq with isAbove | sameRow
  · left
    exact Int.add_lt_add_left (mul_lt_mul_of_pos_right isAbove (by omega)) _
  · right
    have inColumns : index.fmod layout.maxPerRow < other.fmod layout.maxPerRow := by
      have whole := row_column layout index
      have otherWhole := row_column layout other
      rw [sameRow] at whole
      omega
    refine ⟨?_, Int.add_lt_add_left (mul_lt_mul_of_pos_right inColumns (by omega)) _⟩
    rw [place, place, sameRow]

/-- Every place lies in one of the columns of the grid, and no place above the margin. -/
theorem place_bounds (usable : layout.IsUsable) {index : Int} (isIndex : 0 ≤ index) :
    layout.margin ≤ (layout.place index).x ∧
      (layout.place index).x ≤ layout.margin + (layout.maxPerRow - 1) * layout.xSpacing ∧
      layout.margin ≤ (layout.place index).y := by
  rcases isUsable_iff.1 usable with ⟨_, width, height, rows⟩
  have column : 0 ≤ index.fmod layout.maxPerRow := Int.fmod_nonneg_of_pos _ (by omega)
  have lastColumn : index.fmod layout.maxPerRow ≤ layout.maxPerRow - 1 := by
    have less := Int.fmod_lt_of_pos index (show 0 < layout.maxPerRow by omega)
    omega
  have row : 0 ≤ index.fdiv layout.maxPerRow := Int.fdiv_nonneg isIndex (by omega)
  refine ⟨?_, ?_, ?_⟩
  · exact le_add_of_nonneg_right (mul_nonneg column (by omega))
  · exact Int.add_le_add_left (mul_le_mul_of_nonneg_right lastColumn (by omega)) _
  · exact le_add_of_nonneg_right (mul_nonneg row (by omega))

/-! ### Layout files -/

theorem Setting.least_le_of_read {members : Toml.Members} {setting : Setting} {value : Int}
    (read : setting.read members = .ok value) : setting.least ≤ value := by
  unfold Setting.read at read
  split at read
  · cases read
    exact isUsable_standard setting
  · split at read
    · rename_i allowed
      cases read
      exact allowed
    · cases read
  · cases read

theorem isUsable_of_ofMembers {members : Toml.Members} (read : ofMembers members = .ok layout) :
    layout.IsUsable := by
  unfold ofMembers at read
  dsimp only at read
  split at read
  · rcases Except.bind_eq_ok_iff.1 read with ⟨margin, readMargin, readSpacing⟩
    rcases Except.bind_eq_ok_iff.1 readSpacing with ⟨xSpacing, readWidth, readMore⟩
    rcases Except.bind_eq_ok_iff.1 readMore with ⟨ySpacing, readHeight, readLast⟩
    rcases Except.bind_eq_ok_iff.1 readLast with ⟨maxPerRow, readRows, isLayout⟩
    cases isLayout
    exact isUsable_iff.2 ⟨Setting.least_le_of_read readMargin, Setting.least_le_of_read readWidth,
      Setting.least_le_of_read readHeight, Setting.least_le_of_read readRows⟩
  · cases read

/-- A layout file sets a usable layout, or none. -/
theorem isUsable_of_ofDocument {document : Toml.Members} (read : ofDocument document = .ok layout) :
    layout.IsUsable := by
  unfold ofDocument at read
  split at read
  · cases read
    exact isUsable_standard
  · exact isUsable_of_ofMembers read
  · cases read

end Layout

namespace Diagram

theorem positions_placed (tables : List Table) (source : String) (layout : Layout) :
    (placed tables source layout).entities.map Entity.position =
      (List.range tables.length).map fun index : Nat => layout.place index := by
  have indexes : List.range tables.length = tables.zipIdx.map Prod.snd := by
    rw [List.zipIdx_map_snd, List.range_eq_range']
  rw [indexes, placed, List.map_map, List.map_map]
  rfl

/-- Where the layout comes from a file, or is the standard one, every list of tables is placed: each
table on a place of its own, in reading order, within the columns of the grid and at or below the
margin.

Of every layout without a zero that the places depend on, each index has a place of its own. -/
theorem entities_in_reading_order :
    (∀ layout, layout = Layout.standard ∨ (∃ document, Layout.ofDocument document = .ok layout) →
      ∀ tables source, ∃ diagram, ofTables tables source layout = .ok diagram ∧
        diagram.entities.map Entity.name = tables.map Table.name ∧
        (diagram.entities.map Entity.position).Pairwise Position.Before ∧
        (diagram.entities.map Entity.position).Nodup ∧
        ∀ entity ∈ diagram.entities, layout.margin ≤ entity.position.x ∧
          entity.position.x ≤ layout.margin + (layout.maxPerRow - 1) * layout.xSpacing ∧
          layout.margin ≤ entity.position.y) ∧
    ∀ layout : Layout, layout.xSpacing ≠ 0 → layout.ySpacing ≠ 0 → layout.maxPerRow ≠ 0 →
      ∃ place : Int → Position, Function.Injective place ∧ ∀ index,
      layout.position index = .ok (place index) := by
  constructor
  · intro layout isLayout tables source
    have usable : layout.IsUsable := by
      rcases isLayout with rfl | ⟨document, read⟩
      · exact Layout.isUsable_standard
      · exact Layout.isUsable_of_ofDocument read
    have hasRows : layout.maxPerRow ≠ 0 := by
      have rows := (Layout.isUsable_iff.1 usable).2.2.2
      omega
    have ordered : ((placed tables source layout).entities.map Entity.position).Pairwise
        Position.Before := by
      rw [positions_placed, List.pairwise_map]
      exact List.pairwise_lt_range.imp fun less => Layout.place_before usable (Int.ofNat_lt.2 less)
    refine ⟨placed tables source layout, ofTables_eq_ok hasRows tables source,
      names_placed tables source layout,
      ordered, ordered.imp Position.Before.ne, ?_⟩
    intro entity mem
    have isPlaced : entity.position ∈ (placed tables source layout).entities.map Entity.position :=
      List.mem_map_of_mem mem
    rw [positions_placed] at isPlaced
    rcases List.mem_map.1 isPlaced with ⟨index, _, same⟩
    rw [← same]
    exact Layout.place_bounds usable (Int.natCast_nonneg index)
  · intro layout hasWidth hasHeight hasRows
    exact ⟨layout.place, Layout.place_injective hasWidth hasHeight, Layout.position_eq_ok hasRows⟩

/-- Tables in rows of two, as a file sets them, and a grid that grows to the left and upwards. -/
theorem entities_in_reading_order_rowsOfTwo :
    (∃ diagram, ofTables [⟨"a", [], []⟩, ⟨"b", [], []⟩, ⟨"a", [], []⟩] "" ⟨0, 300, 1, 2⟩ =
      .ok diagram ∧
      (diagram.entities.map Entity.position).Pairwise Position.Before) ∧
    ∃ place : Int → Position, Function.Injective place ∧
      ∀ index, (⟨5, -1, -2, -3⟩ : Layout).position index = .ok (place index) := by
  have read : Layout.ofDocument [("title", .string "grid"),
      ("layout", .table [("max_per_row", .integer 2), ("y_spacing", .integer 1),
        ("margin", .integer 0)])] =
      .ok ⟨0, 300, 1, 2⟩ := by cbv
  rcases entities_in_reading_order.1 _ (.inr ⟨_, read⟩)
    [⟨"a", [], []⟩, ⟨"b", [], []⟩, ⟨"a", [], []⟩] "" with
    ⟨diagram, built, _, ordered, _⟩
  exact ⟨⟨diagram, built, ordered⟩,
    entities_in_reading_order.2 _ (by decide) (by decide) (by decide)⟩

end Diagram

end Schemagram
