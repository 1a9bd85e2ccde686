import DetectorGeometry.Proofs.Space.Faces
import DetectorGeometry.Proofs.Space.Turning
import DetectorGeometry.Space.AngleConvention

namespace DetectorGeometry

open Trigonometry (sin cos)

variable {α : Type}

theorem Matrix3.ext_entries {m n : Matrix3 α} (xx : m.row1.x = n.row1.x) (xy : m.row1.y = n.row1.y)
    (xz : m.row1.z = n.row1.z) (yx : m.row2.x = n.row2.x) (yy : m.row2.y = n.row2.y)
    (yz : m.row2.z = n.row2.z) (zx : m.row3.x = n.row3.x) (zy : m.row3.y = n.row3.y)
    (zz : m.row3.z = n.row3.z) : m = n :=
  Matrix3.ext (Vec3.ext xx xy xz) (Vec3.ext yx yy yz) (Vec3.ext zx zy zz)

variable [ExactScalar α]

namespace Matrix3

theorem mul_eq (m n : Matrix3 α) :
    m * n = ⟨n.transpose.apply m.row1, n.transpose.apply m.row2, n.transpose.apply m.row3⟩ := rfl

theorem mul_assoc (l m n : Matrix3 α) : l * m * n = l * (m * n) := by
  simp only [mul_eq, apply, transpose, Vec3.dot]
  apply ext_entries <;> ring

theorem mul_identity (m : Matrix3 α) : m * identity = m := by
  simp only [mul_eq, apply, transpose, Vec3.dot, identity]
  apply ext_entries <;> ring

theorem transpose_mul (m n : Matrix3 α) : (m * n).transpose = n.transpose * m.transpose := by
  simp only [mul_eq, apply, transpose, Vec3.dot]
  apply ext_entries <;> ring

theorem det_mul (m n : Matrix3 α) : (m * n).det = m.det * n.det := by
  simp only [det, mul_eq, apply, transpose, Vec3.dot, Vec3.cross]
  ring

theorem IsRotation.mul {m n : Matrix3 α} (first : m.IsRotation) (second : n.IsRotation) :
    (m * n).IsRotation := by
  constructor
  · calc
      m * n * (m * n).transpose = m * (n * n.transpose) * m.transpose := by
        rw [transpose_mul, mul_assoc, mul_assoc, mul_assoc]
      _ = identity := by rw [second.orthogonal, mul_identity, first.orthogonal]
  · rw [det_mul, first.det, second.det, mul_one]

variable [Trigonometry α]

/-- The active turn by an angle about an axis of the frame. -/
def turn : Axis → α → Matrix3 α
  | .x, angle => ⟨⟨1, 0, 0⟩, ⟨0, cos angle, -sin angle⟩, ⟨0, sin angle, cos angle⟩⟩
  | .y, angle => ⟨⟨cos angle, 0, sin angle⟩, ⟨0, 1, 0⟩, ⟨-sin angle, 0, cos angle⟩⟩
  | .z, angle => ⟨⟨cos angle, -sin angle, 0⟩, ⟨sin angle, cos angle, 0⟩, ⟨0, 0, 1⟩⟩

def direction : Axis → Vec3 α
  | .x => ⟨1, 0, 0⟩
  | .y => ⟨0, 1, 0⟩
  | .z => ⟨0, 0, 1⟩

theorem about_direction (axis : Axis) (angle : α) :
    about (direction axis) angle = turn axis angle := by
  cases axis <;> simp [about, direction, turn]

theorem aboutX_eq (angle : α) : aboutX angle = turn .x angle := about_direction .x angle

theorem aboutZ_eq (angle : α) : aboutZ angle = turn .z angle := about_direction .z angle

theorem rollPitchYaw_eq (roll pitch yaw : α) :
    rollPitchYaw roll pitch yaw = turn .z yaw * turn .y pitch * turn .x roll := by
  simp only [rollPitchYaw, turn, mul_eq, apply, transpose, Vec3.dot]
  apply ext_entries <;> ring

variable [LawfulTrigonometry α]

theorem turn_neg (axis : Axis) (angle : α) : turn axis (-angle) = (turn axis angle).transpose := by
  cases axis <;>
    simp only [turn, transpose, LawfulTrigonometry.sin_neg, LawfulTrigonometry.cos_neg, neg_neg]

theorem isRotation_turn (axis : Axis) (angle : α) : (turn axis angle).IsRotation := by
  have circle := LawfulTrigonometry.sin_sq_add_cos_sq angle
  constructor
  · cases axis <;> simp only [turn, mul_eq, apply, transpose, Vec3.dot, identity] <;>
      apply ext_entries <;> grind
  · cases axis <;> simp only [turn, det, Vec3.dot, Vec3.cross] <;> grind

end Matrix3

namespace AngleConvention

open Matrix3 (turn)

variable [Trigonometry α]

theorem rotation_xyz (a b c : α) :
    rotation .xyz ⟨a, b, c⟩ = turn .z c * turn .y b * turn .x a :=
  Matrix3.rollPitchYaw_eq a b c

theorem rotation_zyx (a b c : α) :
    rotation .zyx ⟨a, b, c⟩ = turn .z a * turn .y b * turn .x c :=
  Matrix3.rollPitchYaw_eq c b a

variable [LawfulTrigonometry α]

/-- The passive reading turns the frame where the active one turns what is in it. -/
theorem rotation_zxz (a b c : α) :
    rotation .zxz ⟨a, b, c⟩ = (turn .z a * turn .x b * turn .z c).transpose := by
  rw [Matrix3.transpose_mul, Matrix3.transpose_mul, ← Matrix3.mul_assoc, ← Matrix3.turn_neg,
    ← Matrix3.turn_neg, ← Matrix3.turn_neg, ← Matrix3.aboutZ_eq, ← Matrix3.aboutX_eq,
    ← Matrix3.aboutZ_eq]
  rfl

theorem isRotation_rotation (mode : AngleConvention) (angles : Vec3 α) :
    (mode.rotation angles).IsRotation := by
  obtain ⟨a, b, c⟩ := angles
  have turned (i j k : Axis) (a b c : α) : (turn i a * turn j b * turn k c).IsRotation :=
    ((Matrix3.isRotation_turn i a).mul (Matrix3.isRotation_turn j b)).mul
      (Matrix3.isRotation_turn k c)
  cases mode with
  | xyz =>
    rw [rotation_xyz]
    exact turned ..
  | zyx =>
    rw [rotation_zyx]
    exact turned ..
  | zxz =>
    rw [rotation_zxz]
    exact (turned ..).transpose

theorem rotation_zxz_neg (a b c : α) :
    rotation .zxz ⟨-c, -b, -a⟩ = (rotation .zxz ⟨a, b, c⟩).transpose := by
  rw [rotation_zxz a b c]
  simp only [rotation, neg_neg, Matrix3.aboutZ_eq, Matrix3.aboutX_eq]
  rfl

/-- Each convention is the documented product of turns about the axes, and gives a rotation. The
conventions `xyz` and `zyx` take the same angles in opposite orders, and `zxz` inverts a rotation by
opposite angles in the opposite order. -/
theorem rotation_is_turned (a b c : α) :
    rotation .xyz ⟨a, b, c⟩ = turn .z c * turn .y b * turn .x a ∧
    rotation .zyx ⟨a, b, c⟩ = turn .z a * turn .y b * turn .x c ∧
    rotation .zxz ⟨a, b, c⟩ = (turn .z a * turn .x b * turn .z c).transpose ∧
    (∀ mode : AngleConvention, (mode.rotation ⟨a, b, c⟩).IsRotation) ∧
    rotation .zyx ⟨a, b, c⟩ = rotation .xyz ⟨c, b, a⟩ ∧
    rotation .zxz ⟨a, b, c⟩ * rotation .zxz ⟨-c, -b, -a⟩ = .identity ∧
    rotation .zxz ⟨-c, -b, -a⟩ * rotation .zxz ⟨a, b, c⟩ = .identity := by
  have isRotation := isRotation_rotation .zxz ⟨a, b, c⟩
  refine ⟨rotation_xyz a b c, rotation_zyx a b c, rotation_zxz a b c,
    fun mode => isRotation_rotation mode _, rfl, ?_, ?_⟩
  · rw [rotation_zxz_neg]
    exact isRotation.orthogonal
  · rw [rotation_zxz_neg]
    exact isRotation.transpose.orthogonal

end AngleConvention

namespace Sample

open Real AngleConvention

/-- Quarter turns about the first and the third axis send the axes round. -/
theorem quarters_turned :
    rotation .xyz ⟨π / 2, 0, π / 2⟩ = (⟨⟨0, 0, 1⟩, ⟨1, 0, 0⟩, ⟨0, 1, 0⟩⟩ : Matrix3 ℝ) ∧
    rotation .zxz ⟨π / 2, π / 2, 0⟩ = (⟨⟨0, 1, 0⟩, ⟨0, 0, 1⟩, ⟨1, 0, 0⟩⟩ : Matrix3 ℝ) ∧
    rotation .zxz ⟨π / 2, π / 2, 0⟩ * rotation .zxz ⟨-0, -(π / 2), -(π / 2)⟩ =
      (.identity : Matrix3 ℝ) := by
  obtain ⟨xyz, _⟩ := rotation_is_turned (π / 2) 0 (π / 2)
  obtain ⟨_, _, zxz, _, _, inverse, _⟩ := rotation_is_turned (π / 2) (π / 2) 0
  refine ⟨?_, ?_, inverse⟩
  · rw [xyz]
    simp [Matrix3.mul_eq, Matrix3.turn, Matrix3.apply, Matrix3.transpose, Vec3.dot]
  · rw [zxz]
    simp [Matrix3.mul_eq, Matrix3.turn, Matrix3.apply, Matrix3.transpose, Vec3.dot]

end Sample

end DetectorGeometry
