import DetectorGeometry.Proofs.Model.Hull
import DetectorGeometry.Proofs.Space.Mixture
import DetectorGeometry.Geometry.Basic

namespace DetectorGeometry

variable {α : Type} [ExactScalar α]

theorem Detector.mem_corners_iff {d : Detector α} {q : Vec3 α} :
    q ∈ d.corners ↔
      ∃ p, Box.IsCorner d.model.value.center d.model.value.size p ∧ d.toGlobal p = q := by
  simp only [Detector.corners, List.mem_map, Box.mem_corners_iff]

namespace Geometry

theorem bounds_within_iff {g : Geometry α} {box : Box α} :
    g.bounds.Within box ↔
      box.Contains .zero ∧
        (∀ d ∈ g.detectors, ∀ p, Box.IsCorner d.model.value.center d.model.value.size p →
          box.Contains (d.toGlobal p)) ∧
        ∀ p ∈ g.points, box.Contains p := by
  have images : (∀ q ∈ g.detectors.flatMap Detector.corners, box.Contains q) ↔
      ∀ d ∈ g.detectors, ∀ p, Box.IsCorner d.model.value.center d.model.value.size p →
        box.Contains (d.toGlobal p) := by
    simp only [List.mem_flatMap, Detector.mem_corners_iff]
    constructor
    · intro all d listed p corner
      exact all _ ⟨d, listed, p, corner, rfl⟩
    · rintro all _ ⟨d, listed, p, corner, rfl⟩
      exact all d listed p corner
  unfold bounds
  rw [Box.includePoints_within_iff, Box.includePoints_within_iff, Box.origin_within_iff, images,
    and_assoc]

theorem bounds_contains_part {g : Geometry α} {d : Detector α} (listed : d ∈ g.detectors)
    {center size p : Vec3 α} (part : d.model.value.Part center size)
    (held : Box.Holds center size p) : g.bounds.Contains (d.toGlobal p) :=
  d.motion.contains_apply_of_corners ((bounds_within_iff.1 .rfl).2.1 d listed) (part.holds held)

/-- Nothing physical lies outside the extreme coordinates, and the bounds are the smallest box
around the origin, the free points and the corners of the boxes around the models. -/
theorem bounds_tight (g : Geometry α) :
    (∀ d ∈ g.detectors, ∀ center size, d.model.value.Part center size →
      ∀ p, Box.Holds center size p →
        g.minimumCoordinate ≤ d.toGlobal p ∧ d.toGlobal p ≤ g.maximumCoordinate) ∧
    (g.minimumCoordinate ≤ .zero ∧ .zero ≤ g.maximumCoordinate) ∧
    (∀ p ∈ g.points, g.minimumCoordinate ≤ p ∧ p ≤ g.maximumCoordinate) ∧
    ∀ box : Box α, box.Contains .zero → (∀ p ∈ g.points, box.Contains p) →
      (∀ d ∈ g.detectors, ∀ p, Box.IsCorner d.model.value.center d.model.value.size p →
        box.Contains (d.toGlobal p)) →
      g.bounds.Within box := by
  have self : g.bounds.Within g.bounds := .rfl
  obtain ⟨origin, -, points⟩ := bounds_within_iff.1 self
  refine ⟨?_, origin, points, ?_⟩
  · intro d listed center size part p held
    exact bounds_contains_part listed part held
  · intro box origin points corners
    exact bounds_within_iff.2 ⟨origin, corners, points⟩

end Geometry

namespace Sample

def wing : SupportLayer ℚ := ⟨⟨50, 30, 2⟩, "g10", .absolute, ⟨0, 10, 0⟩, .zero, .zero⟩

def winged : Model ℚ where
  typeName := "winged"
  assembly := .hybrid ⟨⟨0, 0, 0, 0⟩, 1, 0, 0, .zero⟩
  pixelCount := ⟨5, 5⟩
  pixelSize := ⟨2, 2⟩
  sensorThickness := 2
  sensorExcess := ⟨0, 0, 0, 0⟩
  configuredChipThickness := 2
  declaredLayers := [⟨⟨5, 5, 21⟩, "g10", .chip, .zero, .zero, .zero⟩, wing]
  document := ⟨[]⟩

def skew : Matrix3 ℚ :=
  ⟨⟨-3 / 5, 0, 4 / 5⟩, ⟨16 / 25, -3 / 5, 12 / 25⟩, ⟨12 / 25, 4 / 5, 9 / 25⟩⟩

def skewed : Detector ℚ := ⟨"skewed", ⟨50, 0, 0⟩, skew, ⟨0, winged⟩, none⟩

def leaning : Geometry ℚ :=
  ⟨[skewed], Geometry.positionsOf [skewed], .empty, [⟨-5, 0, 0⟩], [], none⟩

/-- The middle of an edge of the wing lies within the bounds, which no box around the geometry can
undercut. -/
theorem leaning_bounds :
    (winged.Part ⟨4, 14, 0⟩ wing.size ∧ Box.Holds ⟨4, 14, 0⟩ wing.size ⟨29, 29, 0⟩ ∧
      leaning.minimumCoordinate ≤ skewed.toGlobal ⟨29, 29, 0⟩ ∧
      skewed.toGlobal ⟨29, 29, 0⟩ ≤ leaning.maximumCoordinate) ∧
    leaning.bounds.Within ⟨⟨-5, -43, -41⟩, ⟨85, 43, 41⟩⟩ := by
  obtain ⟨parts, -, -, smallest⟩ := Geometry.bounds_tight leaning
  have placed : (⟨wing, ⟨4, 14, 0⟩⟩ : PlacedLayer ℚ) ∈ winged.supportLayers := by decide +kernel
  have part : winged.Part ⟨4, 14, 0⟩ wing.size := .support placed
  have held : Box.Holds ⟨4, 14, 0⟩ wing.size ⟨29, 29, 0⟩ := by
    constructor <;> decide +kernel
  refine ⟨⟨part, held, parts skewed List.mem_cons_self _ _ part _ held⟩, ?_⟩
  apply smallest
  · decide +kernel
  · decide +kernel
  · intro d listed p corner
    cases List.mem_singleton.mp listed
    have images : ∀ p ∈ Box.corners winged.center winged.size,
        (⟨⟨-5, -43, -41⟩, ⟨85, 43, 41⟩⟩ : Box ℚ).Contains (skewed.toGlobal p) := by decide +kernel
    exact images p (Box.mem_corners_iff.mpr corner)

end Sample

end DetectorGeometry
