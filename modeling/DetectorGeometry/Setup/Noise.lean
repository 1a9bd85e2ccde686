import DetectorGeometry.Space.Vector

/-!
Random numbers as values. A seeder hands out seeds, and a seed stands for a sequence of standard
normal draws that can be looked up by their number.
-/
namespace DetectorGeometry

structure Seeder where
  state : UInt64
deriving DecidableEq

namespace Seeder

def scramble (n : UInt64) : UInt64 :=
  let n := (n ^^^ (n >>> 30)) * 0xBF58476D1CE4E5B9
  let n := (n ^^^ (n >>> 27)) * 0x94D049BB133111EB
  n ^^^ (n >>> 31)

def next (s : Seeder) : UInt64 × Seeder :=
  let state := s.state + 0x9E3779B97F4A7C15
  (scramble state, ⟨state⟩)

end Seeder

/-- The standard normal draws that belong to each seed. -/
structure Noise (α : Type) where
  draw (seed : UInt64) (number : Nat) : α

namespace Noise

/-- Three draws that follow one another; `number` counts such triples. -/
def triple {α : Type} (noise : Noise α) (seed : UInt64) (number : Nat) : Vec3 α :=
  ⟨noise.draw seed (3 * number), noise.draw seed (3 * number + 1), noise.draw seed (3 * number + 2)⟩

end Noise

end DetectorGeometry
