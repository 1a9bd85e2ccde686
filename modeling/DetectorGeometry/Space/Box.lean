import DetectorGeometry.Space.Vector

/-!
Axis-aligned boxes. A box is grown by including points and other boxes; a box to include is given by
its center and its full size, of which the sign of a component does not matter.
-/
namespace DetectorGeometry

@[ext] structure Box (α : Type) where
  min : Vec3 α
  max : Vec3 α
deriving DecidableEq

namespace Box

variable {α : Type} [Scalar α]

/-- The box that contains nothing: the first point included defines it. -/
def empty : Box α := ⟨.replicate Scalar.largest, .replicate (-Scalar.largest)⟩

def origin : Box α := ⟨.zero, .zero⟩

def includePoint (b : Box α) (p : Vec3 α) : Box α :=
  ⟨.zipWith Scalar.lesser b.min p, .zipWith Scalar.greater b.max p⟩

def includePoints (b : Box α) (ps : List (Vec3 α)) : Box α :=
  ps.foldl includePoint b

def includeBox (b : Box α) (center size : Vec3 α) : Box α :=
  (b.includePoint (center - size.half)).includePoint (center + size.half)

def symmetricSize (b : Box α) (center : Vec3 α) : Vec3 α :=
  (Vec3.zipWith Scalar.greater (b.max - center) (center - b.min)).map Scalar.double

/-- The eight corners of a box given by center and full size: the positive side comes first on every
axis, and `z` changes fastest. -/
def corners (center size : Vec3 α) : List (Vec3 α) :=
  let low := center - size.half
  let high := center + size.half
  [high.x, low.x].flatMap fun x =>
    [high.y, low.y].flatMap fun y =>
      [high.z, low.z].map fun z => ⟨x, y, z⟩

end Box

end DetectorGeometry
