import DetectorGeometry.Space.Rotation

/-!
Rotations as unit quaternions. A turn by an angle about an axis of length one has the cosine of half
the angle as its scalar part and the axis times the sine of half the angle as its vector part.
-/
namespace DetectorGeometry

@[ext] structure Quaternion (α : Type) where
  scalar : α
  vector : Vec3 α
deriving DecidableEq

namespace Quaternion

open Scalar (half double sqrt)

variable {α : Type} [Scalar α]

/-- The unit quaternion of a rotation. The component computed first is one that is not small, so
that the divisions are safe: the scalar part if the trace is positive, and otherwise the component
along the axis with the greatest diagonal entry. -/
def ofRotation (m : Matrix3 α) : Quaternion α :=
  let ⟨⟨xx, xy, xz⟩, ⟨yx, yy, yz⟩, ⟨zx, zy, zz⟩⟩ := m
  if 0 < xx + yy + zz then
    let root := sqrt (xx + yy + zz + 1)
    let d := double root
    ⟨half root, ⟨(zy - yz) / d, (xz - zx) / d, (yx - xy) / d⟩⟩
  else if yy < xx ∧ zz < xx then
    let root := sqrt (1 + xx - yy - zz)
    let d := double root
    ⟨(zy - yz) / d, ⟨half root, (xy + yx) / d, (xz + zx) / d⟩⟩
  else if zz < yy then
    let root := sqrt (1 + yy - xx - zz)
    let d := double root
    ⟨(xz - zx) / d, ⟨(xy + yx) / d, half root, (yz + zy) / d⟩⟩
  else
    let root := sqrt (1 + zz - xx - yy)
    let d := double root
    ⟨(yx - xy) / d, ⟨(xz + zx) / d, (yz + zy) / d, half root⟩⟩

def conjugate (q : Quaternion α) : Quaternion α := ⟨q.scalar, -q.vector⟩

/-- Turns a vector `v` by a unit quaternion with scalar part `w` and vector part `u`:
`2 w (u × v) + u × 2 (u × v) + v`. -/
def apply (q : Quaternion α) (v : Vec3 α) : Vec3 α :=
  let twice := (q.vector.cross v).map double
  twice.map (· * q.scalar) + q.vector.cross twice + v

end Quaternion

end DetectorGeometry
