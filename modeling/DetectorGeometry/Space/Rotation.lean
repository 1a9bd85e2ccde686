import DetectorGeometry.Space.Vector

namespace DetectorGeometry

@[ext] structure Matrix3 (α : Type) where
  row1 : Vec3 α
  row2 : Vec3 α
  row3 : Vec3 α
deriving DecidableEq

namespace Matrix3

variable {α : Type} [Scalar α]

def transpose (m : Matrix3 α) : Matrix3 α :=
  ⟨⟨m.row1.x, m.row2.x, m.row3.x⟩, ⟨m.row1.y, m.row2.y, m.row3.y⟩, ⟨m.row1.z, m.row2.z, m.row3.z⟩⟩

def apply (m : Matrix3 α) (v : Vec3 α) : Vec3 α := ⟨m.row1.dot v, m.row2.dot v, m.row3.dot v⟩

def mul (m n : Matrix3 α) : Matrix3 α :=
  let columns := n.transpose
  ⟨columns.apply m.row1, columns.apply m.row2, columns.apply m.row3⟩

instance : Mul (Matrix3 α) := ⟨mul⟩

variable [Trigonometry α]

/-- The turn by `angle` about an axis of length one, counter-clockwise as seen from the tip of the
axis. -/
def about (axis : Vec3 α) (angle : α) : Matrix3 α :=
  let s := Trigonometry.sin angle
  let c := Trigonometry.cos angle
  let along (u : α) : α := u * u + (1 - u * u) * c
  let across (u v : α) : α := u * v * (1 - c)
  let ⟨x, y, z⟩ := axis
  ⟨⟨along x, across x y - z * s, across x z + y * s⟩,
   ⟨across x y + z * s, along y, across y z - x * s⟩,
   ⟨across x z - y * s, across y z + x * s, along z⟩⟩

def aboutX : α → Matrix3 α := about ⟨1, 0, 0⟩
def aboutZ : α → Matrix3 α := about ⟨0, 0, 1⟩

/-- The turn by `roll` about the first axis, then by `pitch` about the second, then by `yaw` about
the third, multiplied out. -/
def rollPitchYaw (roll pitch yaw : α) : Matrix3 α :=
  let sr := Trigonometry.sin roll
  let cr := Trigonometry.cos roll
  let sp := Trigonometry.sin pitch
  let cp := Trigonometry.cos pitch
  let sy := Trigonometry.sin yaw
  let cy := Trigonometry.cos yaw
  ⟨⟨cy * cp, cy * sp * sr - sy * cr, cy * sp * cr + sy * sr⟩,
   ⟨sy * cp, sy * sp * sr + cy * cr, sy * sp * cr - cy * sr⟩,
   ⟨-sp, cp * sr, cp * cr⟩⟩

end Matrix3

end DetectorGeometry
