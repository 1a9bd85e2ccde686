import DetectorGeometry.Proofs.Scalar.Height
import DetectorGeometry.Proofs.Space.Faces

namespace DetectorGeometry.Vec3

section Components

variable {α : Type}

theorem all_iff_along {p : α → Bool} {v : Vec3 α} :
    v.all p = true ↔ ∀ axis, p (v.along axis) = true := by
  rw [Vec3.all, Bool.and_eq_true, Bool.and_eq_true]
  constructor
  · rintro ⟨⟨x, y⟩, z⟩ axis
    cases axis with
    | x => exact x
    | y => exact y
    | z => exact z
  · intro all
    exact ⟨⟨all .x, all .y⟩, all .z⟩

theorem equal_iff_along [Scalar α] {v w : Vec3 α} :
    v.equal w = true ↔ ∀ axis, Scalar.equal (v.along axis) (w.along axis) = true := by
  rw [Vec3.equal, all_iff_along]
  simp only [along_zipWith, id]

end Components

def IsNumber (v : Vec3 Float) : Prop := ∀ axis, (v.along axis).isNaN = false

def IsFinite (v : Vec3 Float) : Prop := ∀ axis, (v.along axis).isFinite = true

instance (v : Vec3 Float) : Decidable v.IsFinite :=
  decidable_of_iff (v.all Float.isFinite = true) all_iff_along

theorem equal_iff_beq {v w : Vec3 Float} :
    v.equal w = true ↔ ∀ axis, (v.along axis == w.along axis) = true := by
  simp only [equal_iff_along, Double.equal_eq_beq]

theorem IsNumber.equal_self {v : Vec3 Float} (number : v.IsNumber) : v.equal v = true :=
  equal_iff_beq.mpr fun axis => Double.beq_self (number axis)

theorem IsFinite.isNumber {v : Vec3 Float} (finite : v.IsFinite) : v.IsNumber := fun axis =>
  Double.isNaN_of_isFinite (finite axis)

theorem IsNumber.half {v : Vec3 Float} (number : v.IsNumber) : v.half.IsNumber := by
  intro axis
  rw [Vec3.half, along_map]
  exact Double.isNaN_half (number axis)

theorem IsFinite.isNumber_add {v w : Vec3 Float} (finite : v.IsFinite) (number : w.IsNumber) :
    (v + w).IsNumber := by
  intro axis
  rw [along_add]
  exact Double.isNaN_add (finite axis) (number axis)

theorem IsFinite.isNumber_sub {v w : Vec3 Float} (finite : v.IsFinite) (number : w.IsNumber) :
    (v - w).IsNumber := by
  intro axis
  rw [along_sub]
  exact Double.isNaN_sub (finite axis) (number axis)

theorem isNumber_of_le {v w : Vec3 Float} (below : v ≤ w) : v.IsNumber ∧ w.IsNumber :=
  ⟨fun axis => (Double.isNaN_of_le (le_iff_along.mp below axis)).1,
    fun axis => (Double.isNaN_of_le (le_iff_along.mp below axis)).2⟩

end DetectorGeometry.Vec3
