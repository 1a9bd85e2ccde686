import DetectorGeometry.Setup.Noise

namespace DetectorGeometry.Gaussian

/-- The uniformly distributed number above zero and up to one that belongs to a place in the
sequence of a seed. -/
def uniform (seed : UInt64) (place : Nat) : Float :=
  let bits := Seeder.scramble (Seeder.scramble seed + UInt64.ofNat place * 0x9E3779B97F4A7C15)
  Float.ofNat ((bits >>> 11).toNat + 1) / 9007199254740992

/-- Every draw is made of two uniform numbers, one for the distance from zero and one for the
direction. -/
def noise : Noise Float where
  draw seed number :=
    let distance := Float.sqrt (-2 * Float.log (uniform seed (2 * number)))
    distance * Float.cos (6.283185307179586 * uniform seed (2 * number + 1))

end DetectorGeometry.Gaussian
