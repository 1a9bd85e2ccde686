import DetectorGeometry.Files.Path
import DetectorGeometry.Settings.Line
import DetectorGeometry.Settings.Quantity

namespace DetectorGeometry

inductive FileFault where
  | noFileName
  | refused
  | notText
deriving DecidableEq

def FileFault.message : FileFault → String
  | noFileName => "model file has no file name"
  | refused => "the system refuses access"
  | notText => "stream did not contain valid UTF-8"

inductive Objection where
  | modelType
  | supportLocation
  | angleConvention
  | precision
  | fieldModel
  | absentPath (path : Path)
  | other (text : String)
deriving DecidableEq

def Objection.message : Objection → String
  | modelType => "model type is not supported"
  | supportLocation => "location of the support should be 'chip', 'sensor' or 'absolute'"
  | angleConvention => "orientation_mode should be either 'zyx', 'xyz' or 'zxz'"
  | precision => "precision should be a finite non-negative number"
  | fieldModel => "model can currently only be 'constant'"
  | absentPath path => s!"path {path.text} does not exist"
  | other text => text

inductive SettingsError where
  | unreadable (path : Path) (fault : FileFault)
  | malformed (source : Option Path) (line : Nat) (fault : LineFault)
  | missingKey (label key : String)
  | invalidType (label key value : String) (fault : ValueFault)
  | invalidValue (label key : String) (objection : Objection)
deriving DecidableEq

def SettingsError.message : SettingsError → String
  | unreadable path fault => s!"could not read configuration file {path.text}: {fault.message}"
  | malformed source line fault =>
    let name := (source.map (·.text)).getD "<input>"
    s!"syntax error in {name} at line {line}: {fault.message}"
  | missingKey label key => s!"key '{key}' in section '{label}' does not exist"
  | invalidType label key value fault =>
    s!"could not convert value '{value}' of key '{key}' in section '{label}': {fault.message}"
  | invalidValue label key objection =>
    s!"value of key '{key}' in section '{label}' is not valid: {objection.message}"

end DetectorGeometry
