import DetectorGeometry.Geometry.MagneticField
import DetectorGeometry.Model.Layout
import DetectorGeometry.Shared
import DetectorGeometry.Space.RigidMotion

namespace DetectorGeometry

structure Detector (α : Type) where
  name : String
  position : Vec3 α
  orientation : Matrix3 α
  model : Shared (Model α)
  sampledField : Option (Vec3 α)

namespace Detector

variable {α : Type}

def typeName (d : Detector α) : String := d.model.value.typeName

def hasField (d : Detector α) : Bool := d.sampledField.isSome

/-- Keeps a value of the magnetic field, unless there is one already. The flag says whether it is
the new one that is kept. -/
def store (d : Detector α) (value : Vec3 α) : Detector α × Bool :=
  match d.sampledField with
  | some _ => (d, false)
  | none => ({ d with sampledField := some value }, true)

def sample (d : Detector α) (field : MagneticField α) : Detector α :=
  (d.store (field.value d.position)).1

variable [Scalar α]

def field (d : Detector α) : Vec3 α := d.sampledField.getD .zero

def motion (d : Detector α) : RigidMotion α := .about d.model.value.center d.position d.orientation

def toGlobal (d : Detector α) (p : Vec3 α) : Vec3 α := d.motion.apply p

def toLocal (d : Detector α) (p : Vec3 α) : Vec3 α := d.motion.unapply p

def corners (d : Detector α) : List (Vec3 α) :=
  (Box.corners d.model.value.center d.model.value.size).map d.toGlobal

end Detector

end DetectorGeometry
