import DetectorGeometry.Settings.Section

namespace DetectorGeometry

inductive FieldKind where
  | none
  | constant
deriving DecidableEq

def FieldKind.keyword : FieldKind → String
  | none => "none"
  | constant => "constant"

structure MagneticField (α : Type) where
  kind : FieldKind
  value : Vec3 α → Vec3 α

namespace MagneticField

variable {α : Type}

def constant (v : Vec3 α) : MagneticField α := ⟨.constant, fun _ => v⟩

def ofSection [Scalar α] (s : Section) : Except SettingsError (MagneticField α) := do
  let model ← s.get .string "model"
  if model ≠ "constant" then .error (s.invalid "model" .fieldModel)
  else return constant (← s.getD .triple "magnetic_field" .zero)

end MagneticField

end DetectorGeometry
