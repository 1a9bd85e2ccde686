import Mathlib.Tactic.Ring
import DetectorGeometry.Model.Layout
import DetectorGeometry.Proofs.Space.Faces

namespace DetectorGeometry

open Scalar (half)

variable {α : Type} [ExactScalar α]

structure Excess.Margins (e : Excess α) (grid area : Box α) : Prop where
  right : area.max.x = grid.max.x + e.right
  left : area.min.x = grid.min.x - e.left
  top : area.max.y = grid.max.y + e.top
  bottom : area.min.y = grid.min.y - e.bottom

/-- Half of the difference of two margins shifts the center just so far that half of their sum on
either side leaves one margin there. -/
theorem upper_edge (center size above below : α) :
    center + half (above - below) + half (size + (above + below)) =
      center + half size + above := by
  simp only [Scalar.half_eq]
  ring

theorem lower_edge (center size above below : α) :
    center + half (above - below) - half (size + (above + below)) =
      center - half size - below := by
  simp only [Scalar.half_eq]
  ring

theorem Excess.margins (e : Excess α) (center grid : Vec3 α) (height thickness : α) :
    e.Margins (.around center grid) (.around (center + e.centerOffset.lift height)
      (grid + ⟨e.width, e.height, thickness⟩)) where
  right := upper_edge center.x grid.x e.right e.left
  left := lower_edge center.x grid.x e.right e.left
  top := upper_edge center.y grid.y e.top e.bottom
  bottom := lower_edge center.y grid.y e.top e.bottom

theorem grid_start (pitch size : α) : half size - half pitch - half size = -half pitch := by
  ring

theorem grid_stop (pitch : α) (count : Nat) :
    half ((count : α) * pitch) - half pitch + half ((count : α) * pitch) =
      ((count : α) - 1 / 2) * pitch := by
  simp only [Scalar.half_eq]
  ring

/-- Cells of one width side by side, the first around zero, leave no gap and reach no farther than
the last one. -/
theorem exists_cell_iff {pitch a : α} (positive : 0 < pitch) {count : Nat} (nonempty : 0 < count) :
    (-half pitch ≤ a ∧ a ≤ ((count : α) - 1 / 2) * pitch) ↔
      ∃ cell < count, |a - (cell : α) * pitch| ≤ half pitch := by
  simp only [Scalar.half_eq]
  constructor
  · rintro ⟨start, stop⟩
    induction count, nonempty using Nat.le_induction with
    | base =>
      refine ⟨0, Nat.zero_lt_one, abs_le.mpr ?_⟩
      push_cast at stop ⊢
      constructor <;> linarith
    | succ count _ ih =>
      by_cases inside : a ≤ ((count : α) - 1 / 2) * pitch
      · obtain ⟨cell, known, near⟩ := ih inside
        exact ⟨cell, by omega, near⟩
      · refine ⟨count, count.lt_succ_self, abs_le.mpr ?_⟩
        push_cast at stop
        constructor <;> linarith
  · rintro ⟨cell, known, near⟩
    obtain ⟨below, above⟩ := abs_le.mp near
    have start : 0 ≤ (cell : α) * pitch := mul_nonneg cell.cast_nonneg positive.le
    have stop : ((cell : α) + 1) * pitch ≤ (count : α) * pitch := by
      refine mul_le_mul_of_nonneg_right ?_ positive.le
      exact_mod_cast known
    constructor <;> linarith

def PlacedLayer.box (placed : PlacedLayer α) : Box α := .around placed.center placed.layer.size

namespace Model

/-- A point in the plane belongs to a pixel, of which the first lies around the origin. -/
structure Cell (m : Model α) (column row : Nat) (x y : α) : Prop where
  x : |x - (column : α) * m.pixelSize.x| ≤ half m.pixelSize.x
  y : |y - (row : α) * m.pixelSize.y| ≤ half m.pixelSize.y

def gridBox (m : Model α) : Box α := .around m.center m.gridSize

def sensorBox (m : Model α) : Box α := .around m.sensorCenter m.sensorSize

def chipBox (m : Model α) : Box α := .around m.chipCenter m.chipSize

theorem gridBox_min (m : Model α) :
    m.gridBox.min = ⟨-half m.pixelSize.x, -half m.pixelSize.y, 0⟩ := by
  refine Vec3.ext (grid_start _ _) (grid_start _ _) ?_
  simp [gridBox, Box.around, center, gridSize, Vec3.half, Vec3.map, Scalar.half_eq]

theorem gridBox_max (m : Model α) :
    m.gridBox.max = ⟨((m.pixelCount.x.toNat : α) - 1 / 2) * m.pixelSize.x,
      ((m.pixelCount.y.toNat : α) - 1 / 2) * m.pixelSize.y, 0⟩ := by
  refine Vec3.ext (grid_stop _ _) (grid_stop _ _) ?_
  simp [gridBox, Box.around, center, gridSize, Vec3.half, Vec3.map, Scalar.half_eq]

theorem gridBox_contains_iff {m : Model α} (columns : 0 < m.pixelCount.x.toNat)
    (rows : 0 < m.pixelCount.y.toNat) (width : 0 < m.pixelSize.x) (height : 0 < m.pixelSize.y)
    (x y : α) :
    m.gridBox.Contains ⟨x, y, 0⟩ ↔
      ∃ column < m.pixelCount.x.toNat, ∃ row < m.pixelCount.y.toNat, m.Cell column row x y := by
  rw [Box.Contains, m.gridBox_min, m.gridBox_max, Vec3.le_iff, Vec3.le_iff]
  constructor
  · rintro ⟨⟨left, lower, _⟩, right, upper, _⟩
    obtain ⟨column, inside, near⟩ := (exists_cell_iff width columns).mp ⟨left, right⟩
    obtain ⟨row, inside', near'⟩ := (exists_cell_iff height rows).mp ⟨lower, upper⟩
    exact ⟨column, inside, row, inside', near, near'⟩
  · rintro ⟨column, inside, row, inside', near, near'⟩
    obtain ⟨left, right⟩ := (exists_cell_iff width columns).mpr ⟨column, inside, near⟩
    obtain ⟨lower, upper⟩ := (exists_cell_iff height rows).mpr ⟨row, inside', near'⟩
    exact ⟨⟨left, lower, le_rfl⟩, right, upper, le_rfl⟩

theorem sensor_margins (m : Model α) : m.sensorExcess.Margins m.gridBox m.sensorBox :=
  m.sensorExcess.margins m.center m.gridSize 0 m.sensorThickness

theorem chip_margins (m : Model α) : m.chipExcess.Margins m.gridBox m.chipBox :=
  m.chipExcess.margins m.center m.gridSize _ m.chipThickness

@[simp] theorem center_z (m : Model α) : m.center.z = 0 := rfl

@[simp] theorem sensorCenter_z (m : Model α) : m.sensorCenter.z = 0 := add_zero 0

@[simp] theorem sensorSize_z (m : Model α) : m.sensorSize.z = m.sensorThickness :=
  zero_add m.sensorThickness

@[simp] theorem chipSize_z (m : Model α) : m.chipSize.z = m.chipThickness :=
  zero_add m.chipThickness

theorem chipCenter_z (m : Model α) :
    m.chipCenter.z = half m.sensorThickness + m.chipGap + half m.chipThickness := by
  rw [← m.sensorSize_z, ← m.chipSize_z]
  exact zero_add _

theorem sensorBox_max_z (m : Model α) : m.sensorBox.max.z = half m.sensorThickness := by
  rw [← m.sensorSize_z]
  exact (congrArg (· + half m.sensorSize.z) m.sensorCenter_z).trans (zero_add _)

theorem chipBox_min_z (m : Model α) : m.chipBox.min.z = m.sensorBox.max.z + m.chipGap := by
  have low : m.chipBox.min.z = m.chipCenter.z - half m.chipSize.z := rfl
  rw [low, m.chipCenter_z, m.chipSize_z, m.sensorBox_max_z, add_sub_cancel_right]

theorem chipBox_max_z (m : Model α) : m.chipBox.max.z = m.chipBox.min.z + m.chipThickness := by
  have low : m.chipBox.min.z = m.chipCenter.z - half m.chipSize.z := rfl
  have high : m.chipBox.max.z = m.chipCenter.z + half m.chipSize.z := rfl
  rw [low, high, m.chipSize_z, Scalar.half_eq]
  ring

theorem bumps_between {m : Model α} {bonding : BumpBonding α}
    (hybrid : m.assembly = .hybrid bonding) :
    ∃ center size, m.bumpsCenter? = some center ∧ m.bumpsSize? = some size ∧
      (Box.around center size).min.z = m.sensorBox.max.z ∧
      (Box.around center size).max.z = m.chipBox.min.z := by
  have gap : m.chipGap = bonding.height := by rw [chipGap, hybrid, Assembly.chipGap]
  refine ⟨m.center + bonding.offset.lift (half m.sensorSize.z + half bonding.height),
    ⟨m.gridSize.x, m.gridSize.y, bonding.height⟩, ?_, ?_, ?_, ?_⟩
  · simp [bumpsCenter?, hybrid, Assembly.bonding?]
  · simp [bumpsSize?, hybrid, Assembly.bonding?]
  · simp [Box.around, Vec3.half, Vec3.map, Vec2.lift, m.sensorBox_max_z]
  · simp only [Box.around, Vec3.half, Vec3.map, Vec2.lift, Vec3.add_z, center_z, sensorSize_z,
      m.chipBox_min_z, m.sensorBox_max_z, gap, Scalar.half_eq]
    ring

theorem chipBox_of_monolithic {m : Model α} (monolithic : m.assembly = .monolithic) :
    m.chipBox.min = { m.sensorBox.min with z := m.sensorBox.max.z } ∧
      m.chipBox.max = m.sensorBox.max := by
  have excess : m.chipExcess = m.sensorExcess := by
    rw [chipExcess, monolithic, Assembly.chipExcess]
  have thickness : m.chipThickness = 0 := by rw [chipThickness, monolithic, Assembly.chipThickness]
  have gap : m.chipGap = 0 := by rw [chipGap, monolithic, Assembly.chipGap]
  have chip := m.chip_margins
  rw [excess] at chip
  have sensor := m.sensor_margins
  have lower : m.chipBox.min.z = m.sensorBox.max.z := by rw [m.chipBox_min_z, gap, add_zero]
  have upper : m.chipBox.max.z = m.sensorBox.max.z := by
    rw [m.chipBox_max_z, thickness, add_zero, lower]
  constructor
  · exact Vec3.ext (chip.left.trans sensor.left.symm) (chip.bottom.trans sensor.bottom.symm) lower
  · exact Vec3.ext (chip.right.trans sensor.right.symm) (chip.top.trans sensor.top.symm) upper

/-- The parts of a model fit the grid of its pixels and each other. -/
theorem parts_fit_grid (m : Model α) :
    let pitch := m.pixelSize
    let columns := m.pixelCount.x.toNat
    let rows := m.pixelCount.y.toNat
    m.gridBox.min = ⟨-half pitch.x, -half pitch.y, 0⟩ ∧
    m.gridBox.max = ⟨((columns : α) - 1 / 2) * pitch.x, ((rows : α) - 1 / 2) * pitch.y, 0⟩ ∧
    (0 < columns → 0 < rows → 0 < pitch.x → 0 < pitch.y → ∀ x y,
      m.gridBox.Contains ⟨x, y, 0⟩ ↔
        ∃ column < columns, ∃ row < rows, m.Cell column row x y) ∧
    m.sensorExcess.Margins m.gridBox m.sensorBox ∧
    (m.assembly.chipExcess m.sensorExcess).Margins m.gridBox m.chipBox ∧
    m.sensorCenter.z = 0 ∧ m.chipBox.min.z = m.sensorBox.max.z + m.chipGap ∧
    match m.assembly with
    | .hybrid _ => ∃ center size, m.bumpsCenter? = some center ∧ m.bumpsSize? = some size ∧
        (Box.around center size).min.z = m.sensorBox.max.z ∧
        (Box.around center size).max.z = m.chipBox.min.z
    | .monolithic => m.bumpsCenter? = none ∧
        m.chipBox.min = { m.sensorBox.min with z := m.sensorBox.max.z } ∧
        m.chipBox.max = m.sensorBox.max := by
  refine ⟨m.gridBox_min, m.gridBox_max, gridBox_contains_iff, m.sensor_margins, m.chip_margins,
    m.sensorCenter_z, m.chipBox_min_z, ?_⟩
  split
  case h_1 bonding hybrid => exact bumps_between hybrid
  case h_2 monolithic =>
    have noBumps : m.bumpsCenter? = none := by simp [bumpsCenter?, monolithic, Assembly.bonding?]
    exact ⟨noBumps, chipBox_of_monolithic monolithic⟩

end Model

namespace Sample

def bracket : SupportLayer ℚ := ⟨⟨-30, 2, 6⟩, "kapton", .absolute, ⟨0, 5, 7⟩, .zero, .zero⟩

def lopsided : Model ℚ where
  typeName := "lopsided"
  assembly := .hybrid ⟨⟨1, 0, 3, 2⟩, 1, 0, 0, ⟨1, -1⟩⟩
  pixelCount := ⟨3, 2⟩
  pixelSize := ⟨2, 4⟩
  sensorThickness := 2
  sensorExcess := ⟨1, 2, 3, 4⟩
  configuredChipThickness := 4
  declaredLayers := [
    ⟨⟨9, 9, 2⟩, "g10", .chip, ⟨1, 0, 0⟩, .zero, .zero⟩,
    bracket,
    ⟨⟨8, 8, 1⟩, "kapton", .sensor, .zero, .zero, .zero⟩,
    ⟨⟨7, 7, 3⟩, "g10", .chip, ⟨0, -2, 0⟩, .zero, .zero⟩,
    ⟨⟨6, 6, 5⟩, "g10", .sensor, ⟨2, 2, 0⟩, .zero, .zero⟩]
  document := ⟨[]⟩

/-- The last corner of the grid belongs to a pixel, and the edges of sensor and chip are where their
margins put them, for either assembly. -/
theorem lopsided_fits_grid :
    (∃ column < 3, ∃ row < 2, lopsided.Cell column row 5 6) ∧
    lopsided.sensorBox.max.x = 5 + 2 ∧ lopsided.chipBox.min.y = -2 - 3 ∧
    lopsided.chipBox.min.z = lopsided.sensorBox.max.z + 1 ∧
    { lopsided with assembly := .monolithic }.chipBox.max = lopsided.sensorBox.max := by
  obtain ⟨_, stop, cover, sensor, chip, _, above, _⟩ := Model.parts_fit_grid lopsided
  obtain ⟨_, _, _, _, _, _, _, _, _, flush⟩ :=
    Model.parts_fit_grid { lopsided with assembly := .monolithic }
  have corner : lopsided.gridBox.Contains ⟨5, 6, 0⟩ := by decide +kernel
  refine ⟨(cover ?_ ?_ ?_ ?_ 5 6).mp corner, sensor.right.trans ?_, chip.bottom.trans ?_, above,
    flush⟩
  all_goals decide +kernel

end Sample

end DetectorGeometry
