import Mathlib
import DetectorGeometry.Proofs.Space.Turning
import DetectorGeometry.Geometry.Detector

/-!
The frame of a detector and the frame of the world, with exact numbers and exact roots. A rigid
motion made from a rotation turns about its pivot, and undoing it turns back. The two maps between
the frames of a detector are therefore inverse to each other, keep distances, and take the center of
the model and the position of the detector to each other (`Detector.turns_about_center`).
-/
namespace DetectorGeometry

variable {α : Type} [ExactScalar α]

namespace Vec3

def squaredDistance (p q : Vec3 α) : α := (p - q).dot (p - q)

theorem squaredDistance_add_left (a v w : Vec3 α) :
    (a + v).squaredDistance (a + w) = v.squaredDistance w := by
  simp [squaredDistance, dot]

theorem squaredDistance_sub_right (v w a : Vec3 α) :
    (v - a).squaredDistance (w - a) = v.squaredDistance w := by
  simp [squaredDistance, dot]

theorem add_sub_cancel_left (a v : Vec3 α) : a + v - a = v := by
  refine Vec3.ext ?_ ?_ ?_ <;> simp

theorem add_sub_cancel (a v : Vec3 α) : a + (v - a) = v := by
  refine Vec3.ext ?_ ?_ ?_ <;> simp

theorem add_add_neg (v a b : Vec3 α) : v + (a + -b) = a + (v - b) := by
  refine Vec3.ext ?_ ?_ ?_ <;> simp <;> ring

theorem sub_self (v : Vec3 α) : v - v = .zero := by
  refine Vec3.ext ?_ ?_ ?_ <;> simp [zero, replicate]

theorem add_zero (v : Vec3 α) : v + .zero = v := by
  refine Vec3.ext ?_ ?_ ?_ <;> simp [zero, replicate]

end Vec3

namespace Matrix3

variable (m : Matrix3 α)

theorem apply_sub (v w : Vec3 α) : m.apply (v - w) = m.apply v - m.apply w := by
  refine Vec3.ext ?_ ?_ ?_ <;>
    simp only [apply, Vec3.dot, Vec3.sub_x, Vec3.sub_y, Vec3.sub_z] <;> ring

theorem apply_neg (v : Vec3 α) : m.apply (-v) = -m.apply v := by
  refine Vec3.ext ?_ ?_ ?_ <;>
    simp only [apply, Vec3.dot, Vec3.neg_x, Vec3.neg_y, Vec3.neg_z] <;> ring

theorem apply_zero : m.apply .zero = .zero := by
  refine Vec3.ext ?_ ?_ ?_ <;> simp [apply, Vec3.dot, Vec3.zero, Vec3.replicate]

theorem IsRotation.squaredDistance_apply {m : Matrix3 α} (rotation : m.IsRotation)
    (p q : Vec3 α) : (m.apply p).squaredDistance (m.apply q) = p.squaredDistance q := by
  rw [Vec3.squaredDistance, ← apply_sub, rotation.dot_apply, Vec3.squaredDistance]

end Matrix3

variable [ExactRoots α]

namespace RigidMotion

variable {turn : Matrix3 α} (rotation : turn.IsRotation) (pivot target : Vec3 α)
include rotation

theorem apply_about (p : Vec3 α) :
    (about pivot target turn).apply p = target + turn.apply (p - pivot) := by
  rw [apply_eq, shift_about, rotation_about, Quaternion.apply_ofRotation rotation,
    Quaternion.apply_ofRotation rotation, turn.apply_neg, Vec3.add_add_neg, turn.apply_sub]

theorem unapply_about (g : Vec3 α) :
    (about pivot target turn).unapply g = pivot + turn.transpose.apply (g - target) := by
  have back := rotation.transpose_apply_apply (-pivot)
  calc
    (about pivot target turn).unapply g =
        turn.transpose.apply (g - (target + turn.apply (-pivot))) := by
      rw [unapply_eq, shift_about, rotation_about, Quaternion.conjugate_apply_ofRotation rotation,
        Quaternion.apply_ofRotation rotation]
    _ = turn.transpose.apply (g - target) - turn.transpose.apply (turn.apply (-pivot)) := by
      rw [← turn.transpose.apply_sub]
      congr 1
      refine Vec3.ext ?_ ?_ ?_ <;> simp <;> ring
    _ = pivot + turn.transpose.apply (g - target) := by
      rw [back]
      refine Vec3.ext ?_ ?_ ?_ <;> simp <;> ring

end RigidMotion

/-- Local and global coordinates of a detector are two views of one rigid space: each map undoes the
other, both keep distances, and the detector is turned about the center of its model, which lies at
its position. -/
theorem Detector.turns_about_center (d : Detector α) (rotation : d.orientation.IsRotation) :
    let center := d.model.value.center
    (∀ p, d.toLocal (d.toGlobal p) = p) ∧ (∀ g, d.toGlobal (d.toLocal g) = g) ∧
    d.toGlobal center = d.position ∧ d.toLocal d.position = center ∧
    (∀ p, d.toGlobal p = d.position + d.orientation.apply (p - center)) ∧
    (∀ p q, (d.toGlobal p).squaredDistance (d.toGlobal q) = p.squaredDistance q) ∧
    ∀ g h, (d.toLocal g).squaredDistance (d.toLocal h) = g.squaredDistance h := by
  intro center
  have toGlobal (p : Vec3 α) : d.toGlobal p = d.position + d.orientation.apply (p - center) :=
    RigidMotion.apply_about rotation center d.position p
  have toLocal (g : Vec3 α) :
      d.toLocal g = center + d.orientation.transpose.apply (g - d.position) :=
    RigidMotion.unapply_about rotation center d.position g
  refine ⟨fun p => ?_, fun g => ?_, ?_, ?_, toGlobal, fun p q => ?_, fun g h => ?_⟩
  · rw [toLocal, toGlobal, Vec3.add_sub_cancel_left, rotation.transpose_apply_apply,
      Vec3.add_sub_cancel]
  · rw [toGlobal, toLocal, Vec3.add_sub_cancel_left, rotation.apply_transpose_apply,
      Vec3.add_sub_cancel]
  · rw [toGlobal, Vec3.sub_self, Matrix3.apply_zero, Vec3.add_zero]
  · rw [toLocal, Vec3.sub_self, Matrix3.apply_zero, Vec3.add_zero]
  · rw [toGlobal, toGlobal, Vec3.squaredDistance_add_left, rotation.squaredDistance_apply,
      Vec3.squaredDistance_sub_right]
  · rw [toLocal, toLocal, Vec3.squaredDistance_add_left, rotation.transpose.squaredDistance_apply,
      Vec3.squaredDistance_sub_right]

namespace Sample

noncomputable def tile : Model ℝ where
  typeName := "tile"
  assembly := .monolithic
  pixelCount := ⟨5, 5⟩
  pixelSize := ⟨2, 2⟩
  sensorThickness := 2
  sensorExcess := ⟨0, 0, 0, 0⟩
  configuredChipThickness := 0
  declaredLayers := []
  document := ⟨[]⟩

noncomputable def wideTurn : Matrix3 ℝ := ⟨⟨0, -1, 0⟩, ⟨0, 0, 1⟩, ⟨-1, 0, 0⟩⟩

noncomputable def turnedTile : Detector ℝ := ⟨"tile", ⟨50, 0, 0⟩, wideTurn, ⟨0, tile⟩, none⟩

theorem turnedTile_turns :
    turnedTile.orientation.IsRotation ∧
    turnedTile.toGlobal ⟨29, 19, 3⟩ = ⟨35, 3, -25⟩ ∧
    turnedTile.toLocal ⟨35, 3, -25⟩ = ⟨29, 19, 3⟩ ∧
    turnedTile.toGlobal ⟨4, 4, 0⟩ = ⟨50, 0, 0⟩ ∧
    (turnedTile.toGlobal ⟨29, 19, 3⟩).squaredDistance (turnedTile.toGlobal ⟨4, 4, 0⟩) = 859 := by
  have rotation : turnedTile.orientation.IsRotation := by
    constructor
    · refine Matrix3.ext (Vec3.ext ?_ ?_ ?_) (Vec3.ext ?_ ?_ ?_) (Vec3.ext ?_ ?_ ?_) <;>
        change Vec3.dot _ _ = _ <;>
        norm_num [turnedTile, wideTurn, Matrix3.transpose, Matrix3.identity, Vec3.dot]
    · norm_num [turnedTile, wideTurn, Matrix3.det, Vec3.dot, Vec3.cross]
  have center : turnedTile.model.value.center = ⟨4, 4, 0⟩ := by
    have count : UInt32.toNat 5 = 5 := rfl
    refine Vec3.ext ?_ ?_ ?_ <;>
      norm_num [turnedTile, tile, Model.center, Model.gridSize, count, Scalar.half_eq]
  obtain ⟨back, _, fixed, _, turned, kept, _⟩ := Detector.turns_about_center turnedTile rotation
  rw [center] at fixed
  have moved : turnedTile.toGlobal ⟨29, 19, 3⟩ = ⟨35, 3, -25⟩ := by
    rw [turned, center]
    refine Vec3.ext ?_ ?_ ?_ <;>
      norm_num [turnedTile, wideTurn, Matrix3.apply, Vec3.dot]
  refine ⟨rotation, moved, ?_, fixed, ?_⟩
  · rw [← moved, back]
  · rw [kept]
    norm_num [Vec3.squaredDistance, Vec3.dot]

end Sample

end DetectorGeometry
