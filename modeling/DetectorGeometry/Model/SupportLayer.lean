import DetectorGeometry.Settings.Section
import DetectorGeometry.Text.Lowercase

namespace DetectorGeometry

inductive SupportLocation where
  /-- Stacked on the face of the sensor that looks away from the chip. -/
  | sensor
  /-- Stacked on the face of the chip that looks away from the sensor. -/
  | chip
  /-- Placed at a fixed offset from the center of the model. -/
  | absolute
deriving DecidableEq

namespace SupportLocation

def keyword : SupportLocation → String
  | sensor => "sensor"
  | chip => "chip"
  | absolute => "absolute"

def all : List SupportLocation := [sensor, chip, absolute]

def ofKeyword? (s : String) : Option SupportLocation :=
  all.find? (·.keyword == Text.asciiLowercase s)

end SupportLocation

/-- A support layer as it is declared. Its thickness is the `z` component of its size, and a hole
goes all the way through. -/
structure SupportLayer (α : Type) where
  size : Vec3 α
  material : String
  location : SupportLocation
  /-- The offset from the center of the model. Along `z` it counts for absolute layers only. -/
  offset : Vec3 α
  holeArea : Vec2 α
  holeOffset : Vec2 α
deriving DecidableEq

structure PlacedLayer (α : Type) where
  layer : SupportLayer α
  center : Vec3 α
deriving DecidableEq

namespace SupportLayer

variable {α : Type} [Scalar α]

def ofSection (s : Section) : Except SettingsError (SupportLayer α) := do
  let thickness ← s.get .number "thickness"
  let area ← s.get (.pair (α := α)) "size"
  let keyword ← s.getD .string "location" "chip"
  let some location := SupportLocation.ofKeyword? keyword
    | .error (s.invalid "location" .supportLocation)
  let offset ←
    if location = .absolute then s.get .triple "offset"
    else do
      let inPlane ← s.getD .pair "offset" .zero
      pure (inPlane.lift 0)
  let material ← s.getD .string "material" "g10"
  let holeArea ← s.getD .pair "hole_size" .zero
  let holeOffset ← s.getD .pair "hole_offset" .zero
  return {
    size := area.lift thickness
    material := Text.lowercase material
    location, offset, holeArea, holeOffset }

def thickness (l : SupportLayer α) : α := l.size.z

def holeSize (l : SupportLayer α) : Vec3 α := l.holeArea.lift l.thickness

/-- Dimensions up to this one count as absent. -/
def tolerance : α := Scalar.decimal 1 (-9)

def hasHole (l : SupportLayer α) : Bool :=
  decide (tolerance < l.holeArea.x) && decide (tolerance < l.holeArea.y)

end SupportLayer

def PlacedLayer.holeCenter {α : Type} [Scalar α] (l : PlacedLayer α) : Vec3 α :=
  l.center + l.layer.holeOffset.lift 0

end DetectorGeometry
