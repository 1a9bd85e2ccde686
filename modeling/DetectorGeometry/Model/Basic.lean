import DetectorGeometry.Model.Assembly
import DetectorGeometry.Model.SupportLayer
import DetectorGeometry.Settings.Document

/-!
Detector models: the description of one type of detector, read from a document of settings. The
anonymous sections of the document hold the parameters, and every section named `support` declares a
support layer.
-/
namespace DetectorGeometry

structure Model (α : Type) where
  typeName : String
  assembly : Assembly α
  pixelCount : Vec2 UInt32
  pixelSize : Vec2 α
  sensorThickness : α
  sensorExcess : Excess α
  /-- The configured thickness of the chip; the assembly decides whether it counts. -/
  configuredChipThickness : α
  declaredLayers : List (SupportLayer α)
  document : Document
deriving DecidableEq

namespace Model

variable {α : Type}

/-- The sections of the model: its merged header, and behind it the named sections in their
order. -/
def sections (m : Model α) : List Section := m.document.header :: m.document.named

variable [Scalar α]

def ofDocument (typeName : String) (document : Document) : Except SettingsError (Model α) := do
  let header := document.header
  let assembly ← Assembly.ofSection header
  let pixelCount ← header.get .counts "number_of_pixels"
  let pixelSize ← header.get .pair "pixel_size"
  let sensorThickness ← header.get .number "sensor_thickness"
  let sensorExcess ← Excess.ofSection header "sensor_excess"
  let configuredChipThickness ← header.getD .number "chip_thickness" 0
  let declaredLayers ← (document.withName "support").mapM SupportLayer.ofSection
  return {
    typeName, assembly, pixelCount, pixelSize, sensorThickness, sensorExcess
    configuredChipThickness, declaredLayers, document }

def nameOfFile (path : Path) : Except SettingsError String :=
  match path.stem? with
  | some name => .ok name
  | none => .error (.unreadable path .noFileName)

def load (files : FileSystem) (path : Path) : Except SettingsError (Model α) := do
  let name ← nameOfFile path
  let document ← Document.load files path
  ofDocument name document

/-- The model of the same type in which the given settings replace parameters. -/
def specialize (m : Model α) (overrides : Section) : Except SettingsError (Model α) :=
  ofDocument m.typeName ⟨overrides :: m.sections⟩

end Model

end DetectorGeometry
