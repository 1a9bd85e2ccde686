import DetectorGeometry.Model.Excess

namespace DetectorGeometry

structure BumpBonding (α : Type) where
  chipExcess : Excess α
  height : α
  sphereRadius : α
  cylinderRadius : α
  offset : Vec2 α
deriving DecidableEq

inductive Assembly (α : Type) where
  | hybrid (bonding : BumpBonding α)
  /-- Sensor and electronics share one piece of silicon. -/
  | monolithic
deriving DecidableEq

namespace BumpBonding

variable {α : Type} [Scalar α]

def ofSection (header : Section) : Except SettingsError (BumpBonding α) := do
  return {
    chipExcess := ← Excess.ofSection header "chip_excess"
    height := ← header.getD .number "bump_height" 0
    sphereRadius := ← header.getD .number "bump_sphere_radius" 0
    cylinderRadius := ← header.getD .number "bump_cylinder_radius" 0
    offset := ← header.getD .pair "bump_offset" .zero }

end BumpBonding

namespace Assembly

variable {α : Type}

def keyword : Assembly α → String
  | hybrid _ => "hybrid"
  | monolithic => "monolithic"

def bonding? : Assembly α → Option (BumpBonding α)
  | hybrid bonding => some bonding
  | monolithic => none

variable [Scalar α]

/-- The assembly that the key `type` asks for. A monolithic one has no use for `chip_thickness`, but
its value has to be a number all the same. -/
def ofSection (header : Section) : Except SettingsError (Assembly α) := do
  let kind ← header.get .string "type"
  if kind = "hybrid" then return hybrid (← BumpBonding.ofSection header)
  else if kind = "monolithic" then
    let _ ← header.getD (.number (α := α)) "chip_thickness" 0
    return monolithic
  else .error (header.invalid "type" .modelType)

def chipExcess : Assembly α → Excess α → Excess α
  | hybrid bonding, _ => bonding.chipExcess
  | monolithic, sensorExcess => sensorExcess

def chipThickness : Assembly α → α → α
  | hybrid _, configured => configured
  | monolithic, _ => 0

def chipGap : Assembly α → α
  | hybrid bonding => bonding.height
  | monolithic => 0

end Assembly

end DetectorGeometry
