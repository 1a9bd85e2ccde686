import DetectorGeometry.Model.Basic
import DetectorGeometry.Space.Box

/-!
The layout of a model: where its parts lie and how large they are. All positions are in the frame of
the model, in which the center of the first pixel is the origin. The sensor lies around `z = 0`, the
chip on its upper face.
-/
namespace DetectorGeometry.Model

open Scalar (half)

variable {α : Type} [Scalar α]

def gridSize (m : Model α) : Vec3 α :=
  ⟨(m.pixelCount.x.toNat : α) * m.pixelSize.x, (m.pixelCount.y.toNat : α) * m.pixelSize.y, 0⟩

/-- The middle of the pixel grid: the point that comes to lie on the position of a detector. -/
def center (m : Model α) : Vec3 α :=
  ⟨half m.gridSize.x - half m.pixelSize.x, half m.gridSize.y - half m.pixelSize.y, 0⟩

def sensorSize (m : Model α) : Vec3 α :=
  m.gridSize + ⟨m.sensorExcess.width, m.sensorExcess.height, m.sensorThickness⟩

def sensorCenter (m : Model α) : Vec3 α := m.center + m.sensorExcess.centerOffset.lift 0

def chipExcess (m : Model α) : Excess α := m.assembly.chipExcess m.sensorExcess

def chipThickness (m : Model α) : α := m.assembly.chipThickness m.configuredChipThickness

def chipGap (m : Model α) : α := m.assembly.chipGap

def chipSize (m : Model α) : Vec3 α :=
  m.gridSize + ⟨m.chipExcess.width, m.chipExcess.height, m.chipThickness⟩

def chipCenter (m : Model α) : Vec3 α :=
  m.center + m.chipExcess.centerOffset.lift (half m.sensorSize.z + m.chipGap + half m.chipSize.z)

def bumpsCenter? (m : Model α) : Option (Vec3 α) :=
  m.assembly.bonding?.map fun bonding =>
    m.center + bonding.offset.lift (half m.sensorSize.z + half bonding.height)

def bumpsSize? (m : Model α) : Option (Vec3 α) :=
  m.assembly.bonding?.map fun bonding => ⟨m.gridSize.x, m.gridSize.y, bonding.height⟩

/-- Stacks layers one by one. `sensorFace` and `chipFace` say how far along `z` from the center of
the model the two stacks have come. -/
def stack (center : Vec3 α) (sensorFace chipFace : α) : List (SupportLayer α) → List (PlacedLayer α)
  | [] => []
  | layer :: rest =>
    let x := layer.offset.x
    let y := layer.offset.y
    match layer.location with
    | .sensor =>
      ⟨layer, center + ⟨x, y, sensorFace - half layer.thickness⟩⟩ ::
        stack center (sensorFace - layer.thickness) chipFace rest
    | .chip =>
      ⟨layer, center + ⟨x, y, chipFace + half layer.thickness⟩⟩ ::
        stack center sensorFace (chipFace + layer.thickness) rest
    | .absolute => ⟨layer, center + layer.offset⟩ :: stack center sensorFace chipFace rest

def supportLayers (m : Model α) : List (PlacedLayer α) :=
  stack m.center (half (-m.sensorSize.z)) (half m.sensorSize.z + m.chipGap + m.chipSize.z)
    m.declaredLayers

def hull (m : Model α) : Box α :=
  m.supportLayers.foldl (fun box placed => box.includeBox placed.center placed.layer.size)
    ((Box.empty.includeBox m.sensorCenter m.sensorSize).includeBox m.chipCenter m.chipSize)

/-- The full size of the smallest box around the center of the model that contains all its parts. -/
def size (m : Model α) : Vec3 α := m.hull.symmetricSize m.center

end DetectorGeometry.Model
