import Mathlib.Tactic.Linarith
import Mathlib.Tactic.Ring
import DetectorGeometry.Proofs.Scalar.Real
import DetectorGeometry.Space.Quaternion

/-!
Rotation matrices and the quaternions made from them, with exact numbers. A rotation determines the
products of any two components of its quaternion (`Matrix3.product`). The component that the
quaternion is computed from is not zero, so the others have just these products with it and with
each other, and the quaternion turns every vector as the matrix does (`Quaternion.Turns`).
-/
namespace DetectorGeometry

open Scalar (half double sqrt)

variable {α : Type} [ExactScalar α]

namespace Vec3

theorem cross_eq_of_spanning {a b c : Vec3 α} (unit : a.dot a = 1) (ab : a.dot b = 0)
    (ac : a.dot c = 0) (spanning : a.dot (b.cross c) = 1) : b.cross c = a := by
  simp only [dot, cross] at unit ab ac spanning
  refine Vec3.ext ?_ ?_ ?_ <;> simp only [cross] <;> grind

theorem dot_comm (v w : Vec3 α) : v.dot w = w.dot v := by
  simp only [dot]
  ring

theorem dot_cross_rotate (a b c : Vec3 α) : a.dot (b.cross c) = b.dot (c.cross a) := by
  simp only [dot, cross]
  ring

end Vec3

namespace Matrix3

def identity : Matrix3 α := ⟨⟨1, 0, 0⟩, ⟨0, 1, 0⟩, ⟨0, 0, 1⟩⟩

def det (m : Matrix3 α) : α := m.row1.dot (m.row2.cross m.row3)

/-- A matrix that keeps lengths and angles, and does not mirror. -/
structure IsRotation (m : Matrix3 α) : Prop where
  orthogonal : m * m.transpose = identity
  det : m.det = 1

namespace IsRotation

variable {m : Matrix3 α}

theorem row1_dot (rotation : m.IsRotation) :
    m.row1.dot m.row1 = 1 ∧ m.row1.dot m.row2 = 0 ∧ m.row1.dot m.row3 = 0 := by
  have row := congrArg Matrix3.row1 rotation.orthogonal
  rw [Vec3.dot_comm m.row1 m.row2, Vec3.dot_comm m.row1 m.row3]
  exact ⟨congrArg Vec3.x row, congrArg Vec3.y row, congrArg Vec3.z row⟩

theorem row2_dot (rotation : m.IsRotation) :
    m.row2.dot m.row2 = 1 ∧ m.row2.dot m.row3 = 0 := by
  have row := congrArg Matrix3.row2 rotation.orthogonal
  rw [Vec3.dot_comm m.row2 m.row3]
  exact ⟨congrArg Vec3.y row, congrArg Vec3.z row⟩

theorem row3_dot (rotation : m.IsRotation) : m.row3.dot m.row3 = 1 :=
  congrArg (·.row3.z) rotation.orthogonal

theorem cross (rotation : m.IsRotation) :
    m.row2.cross m.row3 = m.row1 ∧ m.row3.cross m.row1 = m.row2 ∧ m.row1.cross m.row2 = m.row3 := by
  obtain ⟨unit1, dot12, dot13⟩ := rotation.row1_dot
  obtain ⟨unit2, dot23⟩ := rotation.row2_dot
  have spans1 : m.row1.dot (m.row2.cross m.row3) = 1 := rotation.det
  have spans2 := (Vec3.dot_cross_rotate m.row1 m.row2 m.row3).symm.trans spans1
  have spans3 := (Vec3.dot_cross_rotate m.row2 m.row3 m.row1).symm.trans spans2
  refine ⟨Vec3.cross_eq_of_spanning unit1 dot12 dot13 spans1,
    Vec3.cross_eq_of_spanning unit2 dot23 ?_ spans2,
    Vec3.cross_eq_of_spanning rotation.row3_dot ?_ ?_ spans3⟩
  · rwa [Vec3.dot_comm]
  · rwa [Vec3.dot_comm]
  · rwa [Vec3.dot_comm]

theorem transpose (rotation : m.IsRotation) : m.transpose.IsRotation := by
  obtain ⟨row1, row2, row3⟩ := rotation.cross
  have spans : m.row1.dot (m.row2.cross m.row3) = 1 := rotation.det
  simp only [Vec3.ext_iff, Vec3.cross] at row1 row2 row3
  simp only [Vec3.dot, Vec3.cross] at spans
  constructor
  · refine Matrix3.ext (Vec3.ext ?_ ?_ ?_) (Vec3.ext ?_ ?_ ?_) (Vec3.ext ?_ ?_ ?_)
    all_goals
      change Vec3.dot _ _ = _
      simp only [Matrix3.transpose, Vec3.dot, identity]
      grind
  · simp only [Matrix3.det, Matrix3.transpose, Vec3.dot, Vec3.cross]
    grind

theorem transpose_apply_apply (rotation : m.IsRotation) (v : Vec3 α) :
    m.transpose.apply (m.apply v) = v := by
  obtain ⟨unit1, dot12, dot13⟩ := rotation.transpose.row1_dot
  obtain ⟨unit2, dot23⟩ := rotation.transpose.row2_dot
  have unit3 := rotation.transpose.row3_dot
  simp only [Matrix3.transpose, Vec3.dot] at unit1 dot12 dot13 unit2 dot23 unit3
  refine Vec3.ext ?_ ?_ ?_ <;> simp only [Matrix3.transpose, Matrix3.apply, Vec3.dot] <;> grind

theorem apply_transpose_apply (rotation : m.IsRotation) (v : Vec3 α) :
    m.apply (m.transpose.apply v) = v :=
  rotation.transpose.transpose_apply_apply v

theorem dot_apply (rotation : m.IsRotation) (v w : Vec3 α) :
    (m.apply v).dot (m.apply w) = v.dot w := by
  have back := rotation.transpose_apply_apply w
  calc
    (m.apply v).dot (m.apply w) = v.dot (m.transpose.apply (m.apply w)) := by
      simp only [Vec3.dot, Matrix3.apply, Matrix3.transpose]
      ring
    _ = v.dot w := by rw [back]

end IsRotation

end Matrix3

namespace Quaternion

inductive Component where
  | scalar
  | x
  | y
  | z

def component (q : Quaternion α) : Component → α
  | .scalar => q.scalar
  | .x => q.vector.x
  | .y => q.vector.y
  | .z => q.vector.z

end Quaternion

def Matrix3.product (m : Matrix3 α) : Quaternion.Component → Quaternion.Component → α
  | .scalar, .scalar => m.row1.x + m.row2.y + m.row3.z + 1
  | .x, .x => 1 + m.row1.x - m.row2.y - m.row3.z
  | .y, .y => 1 + m.row2.y - m.row1.x - m.row3.z
  | .z, .z => 1 + m.row3.z - m.row1.x - m.row2.y
  | .scalar, .x | .x, .scalar => m.row3.y - m.row2.z
  | .scalar, .y | .y, .scalar => m.row1.z - m.row3.x
  | .scalar, .z | .z, .scalar => m.row2.x - m.row1.y
  | .x, .y | .y, .x => m.row1.y + m.row2.x
  | .x, .z | .z, .x => m.row1.z + m.row3.x
  | .y, .z | .z, .y => m.row2.z + m.row3.y

theorem Matrix3.IsRotation.product_mul_product {m : Matrix3 α} (rotation : m.IsRotation)
    (pivot i j : Quaternion.Component) :
    m.product pivot i * m.product pivot j = m.product pivot pivot * m.product i j := by
  obtain ⟨unit1, dot12, dot13⟩ := rotation.row1_dot
  obtain ⟨unit2, dot23⟩ := rotation.row2_dot
  have unit3 := rotation.row3_dot
  obtain ⟨cross1, cross2, cross3⟩ := rotation.cross
  obtain ⟨col1, coldot12, coldot13⟩ := rotation.transpose.row1_dot
  obtain ⟨col2, coldot23⟩ := rotation.transpose.row2_dot
  have col3 := rotation.transpose.row3_dot
  simp only [Vec3.dot] at unit1 dot12 dot13 unit2 dot23 unit3
  simp only [Matrix3.transpose, Vec3.dot] at col1 coldot12 coldot13 col2 coldot23 col3
  simp only [Vec3.ext_iff, Vec3.cross] at cross1 cross2 cross3
  cases pivot <;> cases i <;> cases j <;> simp only [Matrix3.product] <;> grind

namespace Quaternion

/-- A quaternion turns like a rotation: the products of its components are those of the matrix. -/
def Turns (q : Quaternion α) (m : Matrix3 α) : Prop :=
  ∀ i j, 4 * (q.component i * q.component j) = m.product i j

namespace Turns

variable {q : Quaternion α} {m : Matrix3 α}

theorem apply_eq (turns : q.Turns m) (v : Vec3 α) : q.apply v = m.apply v := by
  have products := fun i => And.intro (turns i .scalar)
    (And.intro (turns i .x) (And.intro (turns i .y) (turns i .z)))
  have scalar := products .scalar
  have x := products .x
  have y := products .y
  have z := products .z
  simp only [component, Matrix3.product] at scalar x y z
  refine Vec3.ext ?_ ?_ ?_ <;>
    simp only [Quaternion.apply, Matrix3.apply, Vec3.dot, Vec3.cross, Vec3.map, Vec3.add_x,
      Vec3.add_y, Vec3.add_z, Scalar.double_eq] <;> grind

theorem conjugate (turns : q.Turns m) : q.conjugate.Turns m.transpose := by
  intro i j
  have product := turns i j
  cases i <;> cases j <;>
    simp only [component, Quaternion.conjugate, Matrix3.product, Matrix3.transpose, Vec3.neg_x,
      Vec3.neg_y, Vec3.neg_z] at product ⊢ <;> linarith

end Turns

variable [ExactRoots α]

theorem exists_pivot (m : Matrix3 α) :
    ∃ pivot, 0 < m.product pivot pivot ∧
      ∀ i, (ofRotation m).component i * double (sqrt (m.product pivot pivot)) =
        m.product pivot i := by
  obtain ⟨⟨xx, xy, xz⟩, ⟨yx, yy, yz⟩, ⟨zx, zy, zz⟩⟩ := m
  simp only [ofRotation]
  -- The squares of all components add up to one, so the greatest is at least a quarter.
  split
  case isTrue trace =>
    have positive : 0 < xx + yy + zz + 1 := by linarith
    refine ⟨.scalar, positive, fun i => ?_⟩
    cases i with
    | scalar => exact Scalar.half_sqrt_mul positive
    | x | y | z => exact Scalar.div_sqrt_mul positive _
  case isFalse trace =>
    split
    case isTrue greatest =>
      have positive : 0 < 1 + xx - yy - zz := by linarith [greatest.1, greatest.2]
      refine ⟨.x, positive, fun i => ?_⟩
      cases i with
      | x => exact Scalar.half_sqrt_mul positive
      | scalar | y | z => exact Scalar.div_sqrt_mul positive _
    case isFalse notX =>
      split
      case isTrue greatest =>
        have positive : 0 < 1 + yy - xx - zz := by
          rcases not_and_or.mp notX with other | other <;> linarith
        refine ⟨.y, positive, fun i => ?_⟩
        cases i with
        | y => exact Scalar.half_sqrt_mul positive
        | scalar | x | z => exact Scalar.div_sqrt_mul positive _
      case isFalse notY =>
        have positive : 0 < 1 + zz - xx - yy := by
          rcases not_and_or.mp notX with other | other <;> linarith
        refine ⟨.z, positive, fun i => ?_⟩
        cases i with
        | z => exact Scalar.half_sqrt_mul positive
        | scalar | x | y => exact Scalar.div_sqrt_mul positive _

theorem turns_ofRotation {m : Matrix3 α} (rotation : m.IsRotation) : (ofRotation m).Turns m := by
  obtain ⟨pivot, positive, components⟩ := exists_pivot m
  intro i j
  have square := Scalar.double_sqrt_mul_self positive
  have both : (4 * ((ofRotation m).component i * (ofRotation m).component j)) *
      m.product pivot pivot = m.product i j * m.product pivot pivot :=
    calc
      (4 * ((ofRotation m).component i * (ofRotation m).component j)) * m.product pivot pivot =
          ((ofRotation m).component i * double (sqrt (m.product pivot pivot))) *
            ((ofRotation m).component j * double (sqrt (m.product pivot pivot))) := by
        linear_combination
          -((ofRotation m).component i * (ofRotation m).component j) * square
      _ = m.product pivot i * m.product pivot j := by rw [components, components]
      _ = m.product i j * m.product pivot pivot := by
        rw [rotation.product_mul_product, mul_comm]
  exact mul_right_cancel₀ positive.ne' both

/-- The quaternion of a rotation represents the same rotation. -/
theorem apply_ofRotation {m : Matrix3 α} (rotation : m.IsRotation) (v : Vec3 α) :
    (ofRotation m).apply v = m.apply v :=
  (turns_ofRotation rotation).apply_eq v

theorem conjugate_apply_ofRotation {m : Matrix3 α} (rotation : m.IsRotation) (v : Vec3 α) :
    (ofRotation m).conjugate.apply v = m.transpose.apply v :=
  (turns_ofRotation rotation).conjugate.apply_eq v

end Quaternion

end DetectorGeometry
