import DetectorGeometry.Settings.Error

namespace DetectorGeometry

inductive Addition where
  | detector
  | model
  | point
  | modelPath
deriving DecidableEq

def Addition.noun : Addition → String
  | detector => "detector"
  | model => "model"
  | point => "point"
  | modelPath => "model path"

inductive GeometryError where
  | closed (addition : Addition)
  | notClosed
  | unknownDetector (name : String)
  | unknownModel (typeName : String)
  | detectorExists (name : String)
  | modelExists (typeName : String)
  | forbiddenName (name : String)
  | fieldAlreadySet
deriving DecidableEq

def GeometryError.message : GeometryError → String
  | closed addition =>
    let noun := addition.noun
    s!"geometry is already closed before adding {noun}"
  | notClosed => "geometry has not been closed yet"
  | unknownDetector name => s!"could not find a detector with name '{name}'"
  | unknownModel typeName => s!"could not find a detector model of type '{typeName}'"
  | detectorExists name =>
    s!"detector with name {name} is already registered, detector names should be unique"
  | modelExists typeName =>
    s!"model with type {typeName} is already registered, model names should be unique"
  | forbiddenName name => s!"detector name {name} is invalid, choose a different name"
  | fieldAlreadySet => "magnetic field has already been set"

inductive Error where
  | settings (error : SettingsError)
  | geometry (error : GeometryError)
deriving DecidableEq

def Error.message : Error → String
  | settings error => error.message
  | geometry error => error.message

def Error.ofSettings {β : Type} : Except SettingsError β → Except Error β
  | .ok value => .ok value
  | .error e => .error (.settings e)

end DetectorGeometry
