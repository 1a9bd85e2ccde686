import DetectorGeometry.Setup.Basic
import DetectorGeometry.Setup.Placing

/-!
Loading detectors from sections of settings. Every section takes the same share of the random draws,
whatever it says: six of them, three for the position and three for the angles.
-/
namespace DetectorGeometry.Setup

variable {σ α : Type}

def configuredPaths (files : FileSystem) (global : Section) : Except SettingsError (List Path) :=
  if global.has "model_paths" then global.existingPaths files "model_paths" else .ok []

/-- What loading does once the sections are registered or one of them is rejected: it appends the
search paths that the global section asks for and the standard ones. -/
def finishLoad (env : Environment) (global : Section) (seeder : σ) :
    Setup α × Except Error Unit → Setup α × σ × Except Error Unit
  | (s, .error e) => (s, seeder, .error e)
  | (s, .ok ()) =>
    match configuredPaths env.files global with
    | .error e => (s, seeder, .error (.settings e))
    | .ok paths =>
      ({ s with modelPaths := s.modelPaths ++ paths ++ env.modelPaths }, seeder, .ok ())

variable [Scalar α] [Trigonometry α]

def loadSection (noise : Noise α) (seed : UInt64) (number : Nat) (s : Setup α)
    (settings : Section) : Setup α × Except Error Unit :=
  match settings.placing (α := α) with
  | .error e => (s, .error (.settings e))
  | .ok c =>
    let place := c.drawn noise seed number
    s.register settings place.1 place.2

def loadSections (noise : Noise α) (seed : UInt64) (number : Nat) (s : Setup α) :
    List Section → Setup α × Except Error Unit
  | [] => (s, .ok ())
  | settings :: rest =>
    match s.loadSection noise seed number settings with
    | (s, .ok ()) => s.loadSections noise seed (number + 1) rest
    | (s, .error e) => (s, .error e)

/-- Loads detectors from sections that carry their names. One seed is taken from the seeder. -/
def load (env : Environment) (noise : Noise α) (s : Setup α) (sections : List Section)
    (global : Section) (seeder : Seeder) : Setup α × Seeder × Except Error Unit :=
  match s.ensureOpen .detector with
  | .error e => (s, seeder, .error e)
  | .ok () =>
    let (seed, seeder) := seeder.next
    finishLoad env global seeder (s.loadSections noise seed 0 sections)

end DetectorGeometry.Setup
