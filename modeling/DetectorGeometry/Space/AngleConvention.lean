import DetectorGeometry.Space.Rotation

namespace DetectorGeometry

/-- How three angles `a`, `b`, `c` are read. -/
inductive AngleConvention where
  /-- `a` about the first axis, then `b` about the second, then `c` about the third; the axes stay
  fixed. -/
  | xyz
  /-- `a` about the third axis, `b` about the turned second, `c` about the turned first axis. -/
  | zyx
  /-- The passive reading of turns by `a`, `b` and `c` about the third, the first and the third
  axis. -/
  | zxz
deriving DecidableEq

namespace AngleConvention

def keyword : AngleConvention → String
  | xyz => "xyz"
  | zyx => "zyx"
  | zxz => "zxz"

def all : List AngleConvention := [xyz, zyx, zxz]

def ofKeyword? (s : String) : Option AngleConvention := all.find? (·.keyword == s)

theorem ofKeyword?_keyword (m : AngleConvention) : ofKeyword? m.keyword = some m := by
  cases m <;> decide

variable {α : Type} [Scalar α] [Trigonometry α]

def rotation (mode : AngleConvention) (angles : Vec3 α) : Matrix3 α :=
  let ⟨a, b, c⟩ := angles
  match mode with
  | xyz => .rollPitchYaw a b c
  | zyx => .rollPitchYaw c b a
  | zxz => .aboutZ (-c) * .aboutX (-b) * .aboutZ (-a)

end AngleConvention

end DetectorGeometry
