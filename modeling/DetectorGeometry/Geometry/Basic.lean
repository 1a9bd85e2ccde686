import DetectorGeometry.Geometry.Catalogue
import DetectorGeometry.Geometry.Detector

namespace DetectorGeometry

structure Geometry (α : Type) where
  detectors : List (Detector α)
  positions : Table Nat
  /-- The generic models; models with overrides belong to their detectors alone. -/
  models : Catalogue α
  points : List (Vec3 α)
  modelPaths : List Path
  field? : Option (MagneticField α)

namespace Geometry

variable {α : Type}

/-- Where each name stands in a list of detectors; of detectors with one name the last counts. -/
def positionsOf (detectors : List (Detector α)) : Table Nat :=
  detectors.zipIdx.foldl (fun positions (d, position) => positions.insert d.name position) .empty

def hasDetector (g : Geometry α) (name : String) : Bool := g.positions.contains name

def findDetector? (g : Geometry α) (name : String) : Option (Detector α) := do
  let position ← g.positions.get? name
  g.detectors[position]?

def detector (g : Geometry α) (name : String) : Except GeometryError (Detector α) :=
  match g.findDetector? name with
  | some d => .ok d
  | none => .error (.unknownDetector name)

def detectorsOfType (g : Geometry α) (typeName : String) :
    Except GeometryError (List (Detector α)) :=
  match g.detectors.filter (·.typeName == typeName) with
  | [] => .error (.unknownModel typeName)
  | found => .ok found

def hasModel (g : Geometry α) (typeName : String) : Bool := g.models.contains typeName

def model (g : Geometry α) (typeName : String) : Except GeometryError (Shared (Model α)) :=
  match g.models.get? typeName with
  | some m => .ok m
  | none => .error (.unknownModel typeName)

def fieldKind (g : Geometry α) : FieldKind := (g.field?.map (·.kind)).getD .none

def hasField (g : Geometry α) : Bool := g.fieldKind ≠ .none

def setField (g : Geometry α) (field : MagneticField α) : Geometry α × Except GeometryError Unit :=
  match g.field? with
  | some _ => (g, .error .fieldAlreadySet)
  | none =>
    ({ g with
      field? := some field
      detectors := g.detectors.map (·.sample field) }, .ok ())

variable [Scalar α]

/-- The smallest axis-aligned box around the origin, the boxes of all detectors and all points. -/
def bounds (g : Geometry α) : Box α :=
  (Box.origin.includePoints (g.detectors.flatMap Detector.corners)).includePoints g.points

def minimumCoordinate (g : Geometry α) : Vec3 α := g.bounds.min

def maximumCoordinate (g : Geometry α) : Vec3 α := g.bounds.max

def fieldAt (g : Geometry α) (position : Vec3 α) : Vec3 α :=
  match g.field? with
  | some field => field.value position
  | none => .zero

end Geometry

end DetectorGeometry
