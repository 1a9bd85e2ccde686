import DetectorGeometry.Setup.Misalignment
import DetectorGeometry.Setup.Noise
import DetectorGeometry.Space.AngleConvention

namespace DetectorGeometry

structure Placing (α : Type) where
  position : Vec3 α
  angles : Vec3 α
  precision : Misalignment α
  mode : AngleConvention
deriving DecidableEq

variable {α : Type} [Scalar α]

def Section.placing (settings : Section) : Except SettingsError (Placing α) := do
  let precision ← Misalignment.ofSection settings
  let position ← settings.getD .triple "position" .zero
  let angles ← settings.getD .triple "orientation" .zero
  let keyword ← settings.getD .string "orientation_mode" AngleConvention.xyz.keyword
  match AngleConvention.ofKeyword? keyword with
  | none => .error (settings.invalid "orientation_mode" .angleConvention)
  | some mode => return ⟨position, angles, precision, mode⟩

/-- The place with the draws of the section that has the number `number` among those loaded: one
triple for the position and the next one for the angles. -/
def Placing.drawn [Trigonometry α] (c : Placing α) (noise : Noise α) (seed : UInt64)
    (number : Nat) : Vec3 α × Matrix3 α :=
  (Misalignment.displace c.position c.precision.position (noise.triple seed (2 * number)),
    c.mode.rotation
      (Misalignment.displace c.angles c.precision.orientation (noise.triple seed (2 * number + 1))))

end DetectorGeometry
