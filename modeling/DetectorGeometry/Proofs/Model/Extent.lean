import DetectorGeometry.Proofs.Model.Hull
import DetectorGeometry.Proofs.Model.Placement

namespace DetectorGeometry

open Scalar (half)

namespace Model

variable {α : Type} [ExactScalar α]

def InRange (m : Model α) : Prop :=
  ∀ center size, m.Part center size → (Box.around center size).InRange

theorem includeLayers_endsAt {b : Box α} {layers : List (PlacedLayer α)} {axis : Axis} {place : α}
    (ends : (layers.foldl (fun box placed => box.includeBox placed.center placed.layer.size)
      b).EndsAt axis place) :
    b.EndsAt axis place ∨ ∃ placed ∈ layers, placed.box.EndsAt axis place := by
  induction layers generalizing b with
  | nil => exact .inl ends
  | cons placed layers ih =>
    rcases ih ends with earlier | ⟨other, listed, here⟩
    · rcases earlier.of_includeBox with before | here
      · exact .inl before
      · exact .inr ⟨placed, List.mem_cons_self, here⟩
    · exact .inr ⟨other, List.mem_cons_of_mem _ listed, here⟩

theorem hull_endsAt {m : Model α} (inRange : m.InRange) {axis : Axis} {place : α}
    (ends : m.hull.EndsAt axis place) :
    ∃ center size, m.Part center size ∧ (Box.around center size).EndsAt axis place := by
  rcases includeLayers_endsAt ends with earlier | ⟨placed, listed, here⟩
  · rcases earlier.of_includeBox with first | here
    · exact ⟨_, _, .sensor, first.of_empty_includeBox (inRange _ _ .sensor)⟩
    · exact ⟨_, _, .chip, here⟩
  · exact ⟨_, _, .support listed, here⟩

theorem hull_proper (m : Model α) : m.hull.min ≤ m.hull.max := by
  have sensor := (hull_within_iff.mp (.rfl : m.hull.Within m.hull)).2 _ _ .sensor
  obtain ⟨above, below⟩ := sensor _ (Box.isCorner_low m.sensorCenter m.sensorSize).holds
  exact above.trans below

theorem half_size_nonneg (m : Model α) (axis : Axis) : 0 ≤ half (m.size.along axis) :=
  Box.half_symmetricSize_nonneg m.hull_proper m.center axis

theorem Part.near_center {m : Model α} {center size p : Vec3 α} (part : m.Part center size)
    (held : Box.Holds center size p) (axis : Axis) :
    |p.along axis - m.center.along axis| ≤ half (m.size.along axis) := by
  have near := Box.holds_iff.mp (part.holds held) axis
  rwa [Vec3.half, Vec3.along_map, abs_of_nonneg (m.half_size_nonneg axis)] at near

/-- The size of a model is that of the smallest box around its center with all parts in it: on every
axis no part reaches farther than half the size, and a face of some part lies just so far away. -/
theorem size_smallest (m : Model α) :
    (∀ center size, m.Part center size → ∀ p, Box.Holds center size p → ∀ axis,
      |p.along axis - m.center.along axis| ≤ half (m.size.along axis)) ∧
    (∀ axis, 0 ≤ m.size.along axis) ∧
    (m.InRange → ∀ axis,
      (∃ center size face, m.Part center size ∧ (Box.around center size).EndsAt axis face ∧
        |face - m.center.along axis| = half (m.size.along axis)) ∧
      ∀ reach, (∀ center size, m.Part center size → ∀ p, Box.Holds center size p →
          |p.along axis - m.center.along axis| ≤ reach) →
        half (m.size.along axis) ≤ reach) := by
  refine ⟨fun _ _ part p held => part.near_center held, fun axis => ?_, fun inRange axis => ?_⟩
  · have positive := m.half_size_nonneg axis
    rw [Scalar.half_eq] at positive
    linarith
  · obtain ⟨face, ends, away⟩ := Box.exists_farther_end m.hull_proper m.center axis
    obtain ⟨center, size, part, isFace⟩ := hull_endsAt inRange ends
    refine ⟨⟨center, size, face, part, isFace, away⟩, fun reach all => ?_⟩
    obtain ⟨p, held, rfl⟩ := isFace.exists_holds
    exact away.symm.trans_le (all center size part p held)

end Model

namespace Sample

/-- Along `y` the lower face of the sensor sets the size, along `x` the bracket, although its own
size is negative there. -/
theorem lopsided_size :
    lopsided.InRange ∧ half (lopsided.size.along .y) = 7 ∧
    (∃ center size face, lopsided.Part center size ∧ (Box.around center size).EndsAt .y face ∧
      |face - lopsided.center.y| = half (lopsided.size.along .y)) ∧
    (Box.Holds ⟨2, 7, 7⟩ bracket.size ⟨-13, 7, 7⟩ ∧
      |-13 - lopsided.center.x| ≤ half (lopsided.size.along .x)) ∧
    ∀ reach, (∀ center size, lopsided.Part center size → ∀ p, Box.Holds center size p →
      |p.y - lopsided.center.y| ≤ reach) → 7 ≤ reach := by
  obtain ⟨near, _, tight⟩ := Model.size_smallest lopsided
  have layers : ∀ placed ∈ lopsided.supportLayers, placed.box.InRange := by decide +kernel
  have inRange : lopsided.InRange := by
    intro center size part
    cases part with
    | sensor => decide +kernel
    | chip => decide +kernel
    | support listed => exact layers _ listed
  have placed : ⟨bracket, ⟨2, 7, 7⟩⟩ ∈ lopsided.supportLayers := by decide +kernel
  have held : Box.Holds ⟨2, 7, 7⟩ bracket.size ⟨-13, 7, 7⟩ := by
    constructor <;> decide +kernel
  have value : half (lopsided.size.along .y) = 7 := by decide +kernel
  obtain ⟨face, smallest⟩ := tight inRange .y
  refine ⟨inRange, value, face, ⟨held, near _ _ (.support placed) _ held .x⟩, fun reach all => ?_⟩
  rw [← value]
  exact smallest reach all

end Sample

end DetectorGeometry
