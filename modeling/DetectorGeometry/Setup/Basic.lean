import DetectorGeometry.Geometry.Basic
import DetectorGeometry.Setup.ModelFile

/-!
Setups: geometries that are still being put together. Detectors, models, points and search paths are
added first; closing a setup then gives every detector its model.
-/
namespace DetectorGeometry

structure Draft (α : Type) where
  name : String
  modelType : String
  position : Vec3 α
  orientation : Matrix3 α

/-- What the draft with the number `draft` asks of the model of its type. -/
structure Request where
  settings : Section
  draft : Nat

structure Setup (α : Type) where
  /-- The detectors, each at the number that it is known by. Detectors are only ever added, so that a
  number keeps its meaning. -/
  drafts : List (Draft α)
  order : List Nat
  names : Table Unit
  requests : Table (List Request)
  models : Catalogue α
  points : List (Vec3 α)
  modelPaths : List Path
  /-- What closing has produced, once the setup is closed. -/
  closed? : Option (Geometry α)

namespace Setup

variable {α : Type}

def empty : Setup α := ⟨[], [], .empty, .empty, .empty, [], [], none⟩

def hasDetector (s : Setup α) (name : String) : Bool := s.names.contains name

/-- The detectors with their numbers, in the order of registration. Every number of the order has a
detector, so that none is passed over. -/
def numbered (s : Setup α) : List (Draft α × Nat) :=
  s.order.filterMap fun number => s.drafts[number]?.map (·, number)

def hasModel (s : Setup α) (typeName : String) : Bool := s.models.contains typeName

def needsModel (s : Setup α) (typeName : String) : Bool := s.requests.contains typeName

def isClosed (s : Setup α) : Bool := s.closed?.isSome

def geometry (s : Setup α) : Except Error (Geometry α) :=
  match s.closed? with
  | some g => .ok g
  | none => .error (.geometry .notClosed)

def ensureOpen (s : Setup α) (addition : Addition) : Except Error Unit :=
  if s.isClosed then .error (.geometry (.closed addition)) else .ok ()

def whenOpen (s : Setup α) (addition : Addition) (add : Setup α → Setup α × Except Error Unit) :
    Setup α × Except Error Unit :=
  match s.ensureOpen addition with
  | .error e => (s, .error e)
  | .ok () => add s

/-- The name that settings for all detectors go by, so that no detector can have it. -/
def reservedName : String := "global"

def register (s : Setup α) (settings : Section) (position : Vec3 α) (orientation : Matrix3 α) :
    Setup α × Except Error Unit :=
  let name := settings.name
  if name = reservedName then (s, .error (.geometry (.forbiddenName name)))
  else if s.hasDetector name then (s, .error (.geometry (.detectorExists name)))
  else
    match settings.get .string "type" with
    | .error e => (s, .error (.settings e))
    | .ok modelType =>
      let number := s.drafts.length
      ({ s with
        drafts := s.drafts ++ [⟨name, modelType, position, orientation⟩]
        order := s.order ++ [number]
        names := s.names.insert name ()
        requests := s.requests.revise modelType fun earlier =>
          earlier.getD [] ++ [⟨settings, number⟩] }, .ok ())

def addDetector (s : Setup α) (name : String) (position : Vec3 α) (orientation : Matrix3 α)
    (modelType : String) : Setup α × Except Error Unit :=
  s.whenOpen .detector
    (·.register ((Section.new name none).set "type" modelType) position orientation)

def addModel (s : Setup α) (model : Model α) : Setup α × Except Error Unit :=
  s.whenOpen .model fun s =>
    match s.models.insert model with
    | .ok models => ({ s with models }, .ok ())
    | .error e => (s, .error (.geometry e))

def addPoint (s : Setup α) (point : Vec3 α) : Setup α × Except Error Unit :=
  s.whenOpen .point fun s => ({ s with points := s.points ++ [point] }, .ok ())

def addModelPath (s : Setup α) (path : Path) : Setup α × Except Error Unit :=
  s.whenOpen .modelPath fun s => ({ s with modelPaths := s.modelPaths ++ [path] }, .ok ())

def setField (s : Setup α) (field : MagneticField α) : Setup α × Except Error Unit :=
  match s.geometry with
  | .error e => (s, .error e)
  | .ok g =>
    let (g, result) := g.setField field
    ({ s with closed? := some g }, result.mapError .geometry)

end Setup

end DetectorGeometry
