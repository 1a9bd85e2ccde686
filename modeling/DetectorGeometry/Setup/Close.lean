import DetectorGeometry.Setup.Resolution

namespace DetectorGeometry.Setup

variable {α : Type} [Scalar α]

/-- Adds the model in a file to the catalogue, unless it is there already or nobody asks for it. -/
def addFile (files : FileSystem) (s : Setup α) (models : Catalogue α) (file : ModelFile) :
    Except Error (Catalogue α) :=
  if models.contains file.name || !s.needsModel file.name then .ok models
  else do
    let model ← Error.ofSettings (Model.load files file.path)
    match models.insert model with
    | .ok models => .ok models
    | .error e => .error (.geometry e)

def loadModels (files : FileSystem) (s : Setup α) : Except Error (Catalogue α) := do
  let found ← Error.ofSettings (ModelFile.search files s.modelPaths)
  found.foldlM (s.addFile files) s.models

/-- Gives every draft its model, one type after the other in ascending order of the type names. -/
def resolve (s : Setup α) (models : Catalogue α) : Except Error (Resolution α) :=
  s.requests.entries.foldlM (Resolution.serveType models) .empty

def finishDraft (resolution : Resolution α) (draft : Draft α) (number : Nat) :
    Except Error (Detector α) :=
  match resolution.model? number with
  | some model => .ok ⟨draft.name, draft.position, draft.orientation, model, none⟩
  | none => .error (.geometry (.unknownModel draft.modelType))

def assemble (files : FileSystem) (s : Setup α) : Except Error (Geometry α) := do
  let models ← s.loadModels files
  let resolution ← s.resolve models
  let detectors ← s.numbered.mapM fun (draft, number) => finishDraft resolution draft number
  return ⟨detectors, Geometry.positionsOf detectors, models, s.points, s.modelPaths, none⟩

/-- Closes the setup. Closing it again changes nothing and gives the same geometry. -/
def close (files : FileSystem) (s : Setup α) : Setup α × Except Error (Geometry α) :=
  match s.closed? with
  | some g => (s, .ok g)
  | none =>
    match s.assemble files with
    | .error e => (s, .error e)
    | .ok g => ({ s with models := g.models, closed? := some g }, .ok g)

end DetectorGeometry.Setup
