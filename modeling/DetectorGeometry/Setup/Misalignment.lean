import DetectorGeometry.Settings.Section

namespace DetectorGeometry

structure Misalignment (α : Type) where
  position : Vec3 α
  orientation : Vec3 α
deriving DecidableEq

structure PrecisionFault (α : Type) where
  precision : Vec3 α
deriving DecidableEq

namespace Misalignment

variable {α : Type} [Scalar α]

def isPrecision (x : α) : Bool := Scalar.isFinite x && decide (0 ≤ x)

def make (position orientation : Vec3 α) : Except (PrecisionFault α) (Misalignment α) :=
  if !position.all isPrecision then .error ⟨position⟩
  else if !orientation.all isPrecision then .error ⟨orientation⟩
  else .ok ⟨position, orientation⟩

/-- Reads both precisions. A bad one is reported under the key of the position if its numbers are
those of the position. -/
def ofSection (s : Section) : Except SettingsError (Misalignment α) := do
  let position ← s.getD .triple "alignment_precision_position" .zero
  let orientation ← s.getD .triple "alignment_precision_orientation" .zero
  match make position orientation with
  | .ok misalignment => .ok misalignment
  | .error fault =>
    let key := if fault.precision.equal position then "alignment_precision_position"
      else "alignment_precision_orientation"
    .error (s.invalid key .precision)

def offset (deviation draw : α) : α := 0 + deviation * draw

def displace (value precision draws : Vec3 α) : Vec3 α :=
  value + Vec3.zipWith offset precision draws

end Misalignment

end DetectorGeometry
