import DetectorGeometry.Files.System
import DetectorGeometry.Settings.Error
import DetectorGeometry.Settings.Reading
import DetectorGeometry.Table.Basic

/-!
Sections: named collections of settings. Values are kept as raw text and are read when they are
asked for, so that a setting can be copied into another section with its unit and all its digits.
-/
namespace DetectorGeometry

/-- A section of settings. An empty name marks an anonymous section; `path` is the file it comes
from. -/
structure Section where
  name : String
  path : Option Path
  settings : Table String
deriving DecidableEq

namespace Section

def new (name : String) (path : Option Path) : Section := ⟨name, path, .empty⟩

def isAnonymous (s : Section) : Bool := s.name.isEmpty

def label (s : Section) : String :=
  if s.isAnonymous then (s.path.map (·.text)).getD "header" else s.name

/-- Whether two sections have the same name and settings and come from the same path, however it is
written. -/
def same (s t : Section) : Bool :=
  s.name == t.name && decide (s.settings = t.settings) &&
    match s.path, t.path with
    | none, none => true
    | some p, some q => p.sameParts q
    | _, _ => false

def has (s : Section) (key : String) : Bool := s.settings.contains key

def size (s : Section) : Nat := s.settings.size

def isEmpty (s : Section) : Bool := s.settings.isEmpty

def set (s : Section) (key value : String) : Section :=
  { s with settings := s.settings.insert key value }

/-- Adds the settings of `other` whose keys are not defined here. -/
def merge (s other : Section) : Section :=
  { s with settings := s.settings.union other.settings }

def text (s : Section) (key : String) : Except SettingsError String :=
  match s.settings.get? key with
  | some text => .ok text
  | none => .error (.missingKey s.label key)

def get {β : Type} (s : Section) (reading : Reading β) (key : String) : Except SettingsError β := do
  let text ← s.text key
  match reading text with
  | .ok value => .ok value
  | .error fault => .error (.invalidType s.label key text fault)

def getD {β : Type} (s : Section) (reading : Reading β) (key : String) (default : β) :
    Except SettingsError β :=
  if s.has key then s.get reading key else .ok default

def invalid (s : Section) (key : String) (objection : Objection) : SettingsError :=
  .invalidValue s.label key objection

def resolve (s : Section) (p : Path) : Path :=
  match s.path.bind Path.parent? with
  | some directory => directory.join p
  | none => p

def paths (s : Section) (key : String) : Except SettingsError (List Path) := do
  let elements ← s.get .strings key
  return elements.map fun element => s.resolve ⟨element⟩

def existingPaths (s : Section) (files : FileSystem) (key : String) :
    Except SettingsError (List Path) := do
  let paths ← s.paths key
  paths.mapM fun p =>
    match files.canonical p with
    | some canonical => .ok canonical
    | none => .error (s.invalid key (.absentPath p))

end Section

end DetectorGeometry
