import DetectorGeometry.Setup.Load

namespace DetectorGeometry

/-- A generator with states `γ`: what a seed starts, and the normal distribution around zero with a
standard deviation, unless it is refused, as a number and the state behind it. -/
structure Generator (γ α : Type) where
  seeded : UInt64 → γ
  normal? : α → Option (γ → α × γ)

namespace Generator

variable {γ α : Type} [Scalar α]

/-- The offset at a standard deviation. Without a distribution there is none, and no number is
taken. -/
def offset (gen : Generator γ α) (deviation : α) (state : γ) : α × γ :=
  match gen.normal? deviation with
  | none => (0, state)
  | some sample => sample state

def offsets (gen : Generator γ α) (precision : Vec3 α) (state : γ) : Vec3 α × γ :=
  let (x, state) := gen.offset precision.x state
  let (y, state) := gen.offset precision.y state
  let (z, state) := gen.offset precision.z state
  (⟨x, y, z⟩, state)

end Generator

def Noise.generator {α : Type} [Scalar α] (noise : Noise α) : Generator (UInt64 × Nat) α where
  seeded seed := (seed, 0)
  normal? deviation :=
    if Misalignment.isPrecision deviation then
      some fun (seed, number) =>
        (Misalignment.offset deviation (noise.draw seed number), (seed, number + 1))
    else none

namespace Setup

variable {σ γ α : Type} [Scalar α] [Trigonometry α]

def loadSectionWith (gen : Generator γ α) (state : γ) (s : Setup α) (settings : Section) :
    Setup α × Except Error γ :=
  match settings.placing (α := α) with
  | .error e => (s, .error (.settings e))
  | .ok c =>
    let (shift, state) := gen.offsets c.precision.position state
    let (turn, state) := gen.offsets c.precision.orientation state
    let (s, result) := s.register settings (c.position + shift) (c.mode.rotation (c.angles + turn))
    (s, result.map fun _ => state)

def loadSectionsWith (gen : Generator γ α) (state : γ) (s : Setup α) :
    List Section → Setup α × Except Error Unit
  | [] => (s, .ok ())
  | settings :: rest =>
    match s.loadSectionWith gen state settings with
    | (s, .ok state) => s.loadSectionsWith gen state rest
    | (s, .error e) => (s, .error e)

def loadWith (gen : Generator γ α) (next : σ → UInt64 × σ) (env : Environment) (s : Setup α)
    (sections : List Section) (global : Section) (seeder : σ) : Setup α × σ × Except Error Unit :=
  match s.ensureOpen .detector with
  | .error e => (s, seeder, .error e)
  | .ok () =>
    let (seed, seeder) := next seeder
    finishLoad env global seeder (s.loadSectionsWith gen (gen.seeded seed) sections)

end Setup

end DetectorGeometry
