import DetectorGeometry.Scalar.Basic

namespace DetectorGeometry

@[ext] structure Vec2 (α : Type) where
  x : α
  y : α
deriving DecidableEq

@[ext] structure Vec3 (α : Type) where
  x : α
  y : α
  z : α
deriving DecidableEq

namespace Vec2

variable {α : Type}

def zero [Scalar α] : Vec2 α := ⟨0, 0⟩

def lift (v : Vec2 α) (z : α) : Vec3 α := ⟨v.x, v.y, z⟩

end Vec2

namespace Vec3

variable {α β γ : Type}

def map (f : α → β) (v : Vec3 α) : Vec3 β := ⟨f v.x, f v.y, f v.z⟩

def zipWith (f : α → β → γ) (v : Vec3 α) (w : Vec3 β) : Vec3 γ := ⟨f v.x w.x, f v.y w.y, f v.z w.z⟩

def replicate (a : α) : Vec3 α := ⟨a, a, a⟩

def all (p : α → Bool) (v : Vec3 α) : Bool := p v.x && p v.y && p v.z

variable [Scalar α]

def zero : Vec3 α := replicate 0

instance : Add (Vec3 α) := ⟨zipWith (· + ·)⟩
instance : Sub (Vec3 α) := ⟨zipWith (· - ·)⟩
instance : Neg (Vec3 α) := ⟨map (- ·)⟩

def half : Vec3 α → Vec3 α := map Scalar.half

def equal (v w : Vec3 α) : Bool := (zipWith Scalar.equal v w).all id

def dot (v w : Vec3 α) : α := v.x * w.x + v.y * w.y + v.z * w.z

def cross (v w : Vec3 α) : Vec3 α :=
  ⟨v.y * w.z - v.z * w.y, v.z * w.x - v.x * w.z, v.x * w.y - v.y * w.x⟩

@[simp] theorem add_x (v w : Vec3 α) : (v + w).x = v.x + w.x := rfl
@[simp] theorem add_y (v w : Vec3 α) : (v + w).y = v.y + w.y := rfl
@[simp] theorem add_z (v w : Vec3 α) : (v + w).z = v.z + w.z := rfl
@[simp] theorem sub_x (v w : Vec3 α) : (v - w).x = v.x - w.x := rfl
@[simp] theorem sub_y (v w : Vec3 α) : (v - w).y = v.y - w.y := rfl
@[simp] theorem sub_z (v w : Vec3 α) : (v - w).z = v.z - w.z := rfl
@[simp] theorem neg_x (v : Vec3 α) : (-v).x = -v.x := rfl
@[simp] theorem neg_y (v : Vec3 α) : (-v).y = -v.y := rfl
@[simp] theorem neg_z (v : Vec3 α) : (-v).z = -v.z := rfl

end Vec3

end DetectorGeometry
