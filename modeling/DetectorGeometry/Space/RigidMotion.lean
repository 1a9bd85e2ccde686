import DetectorGeometry.Space.Quaternion

namespace DetectorGeometry

structure RigidMotion (α : Type) where
  rotation : Quaternion α
  shift : Vec3 α

namespace RigidMotion

variable {α : Type} [Scalar α]

/-- The motion that turns about `pivot` and takes it to `target`. -/
def about (pivot target : Vec3 α) (rotation : Matrix3 α) : RigidMotion α :=
  let q := Quaternion.ofRotation rotation
  ⟨q, target + q.apply (-pivot)⟩

def apply (m : RigidMotion α) (p : Vec3 α) : Vec3 α := m.rotation.apply p + m.shift

def unapply (m : RigidMotion α) (p : Vec3 α) : Vec3 α := m.rotation.conjugate.apply (p - m.shift)

theorem apply_eq (m : RigidMotion α) (p : Vec3 α) : m.apply p = m.rotation.apply p + m.shift := rfl

theorem unapply_eq (m : RigidMotion α) (p : Vec3 α) :
    m.unapply p = m.rotation.conjugate.apply (p - m.shift) := rfl

theorem rotation_about (pivot target : Vec3 α) (rotation : Matrix3 α) :
    (about pivot target rotation).rotation = .ofRotation rotation := rfl

theorem shift_about (pivot target : Vec3 α) (rotation : Matrix3 α) :
    (about pivot target rotation).shift =
      target + (Quaternion.ofRotation rotation).apply (-pivot) := rfl

end RigidMotion

end DetectorGeometry
