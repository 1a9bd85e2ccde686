import DetectorGeometry.Proofs.Space.Enclosure

namespace DetectorGeometry

inductive Axis where
  | x
  | y
  | z
deriving DecidableEq

namespace Vec3

variable {α β γ : Type}

def along (v : Vec3 α) : Axis → α
  | .x => v.x
  | .y => v.y
  | .z => v.z

@[simp] theorem along_map (f : α → β) (v : Vec3 α) (axis : Axis) :
    (v.map f).along axis = f (v.along axis) := by
  cases axis <;> rfl

@[simp] theorem along_zipWith (f : α → β → γ) (v : Vec3 α) (w : Vec3 β) (axis : Axis) :
    (zipWith f v w).along axis = f (v.along axis) (w.along axis) := by
  cases axis <;> rfl

@[simp] theorem along_add [Scalar α] (v w : Vec3 α) (axis : Axis) :
    (v + w).along axis = v.along axis + w.along axis :=
  along_zipWith (· + ·) v w axis

@[simp] theorem along_sub [Scalar α] (v w : Vec3 α) (axis : Axis) :
    (v - w).along axis = v.along axis - w.along axis :=
  along_zipWith (· - ·) v w axis

theorem ext_along {v w : Vec3 α} (same : ∀ axis, v.along axis = w.along axis) : v = w :=
  Vec3.ext (same .x) (same .y) (same .z)

theorem le_iff_along [LE α] {v w : Vec3 α} : v ≤ w ↔ ∀ axis, v.along axis ≤ w.along axis := by
  constructor
  · intro below axis
    cases axis with
    | x => exact below.1
    | y => exact below.2.1
    | z => exact below.2.2
  · intro below
    exact ⟨below .x, below .y, below .z⟩

end Vec3

variable {α : Type} [ExactScalar α]

namespace Scalar

theorem lesser_eq_or (a b : α) : lesser a b = a ∨ lesser a b = b := by
  unfold lesser
  split
  · exact .inl rfl
  · exact .inr rfl

theorem greater_eq_or (a b : α) : greater a b = a ∨ greater a b = b := by
  unfold greater
  split
  · exact .inl rfl
  · exact .inr rfl

theorem lesser_eq_right {a b : α} (below : b ≤ a) : lesser a b = b := by
  unfold lesser
  split
  case isTrue above => exact le_antisymm above below
  case isFalse => rfl

theorem greater_eq_right {a b : α} (above : a ≤ b) : greater a b = b := by
  unfold greater
  split
  case isTrue below => exact le_antisymm above below
  case isFalse => rfl

end Scalar

namespace Box

/-- The box with a center and a full size. The ends along an axis change sides with the sign of the
size. -/
def around (center size : Vec3 α) : Box α := ⟨center - size.half, center + size.half⟩

def EndsAt (b : Box α) (axis : Axis) (place : α) : Prop :=
  place = b.min.along axis ∨ place = b.max.along axis

def finite : Box α := ⟨.replicate (-Scalar.largest), .replicate Scalar.largest⟩

def InRange (b : Box α) : Prop := finite.Contains b.min ∧ finite.Contains b.max

instance (b : Box α) : Decidable b.InRange :=
  inferInstanceAs (Decidable (finite.Contains b.min ∧ finite.Contains b.max))

theorem holds_iff {center size p : Vec3 α} :
    Holds center size p ↔ ∀ axis, |p.along axis - center.along axis| ≤ |size.half.along axis| := by
  constructor
  · intro held axis
    cases axis with
    | x => exact held.x
    | y => exact held.y
    | z => exact held.z
  · intro near
    exact ⟨near .x, near .y, near .z⟩

theorem EndsAt.exists_holds {center size : Vec3 α} {axis : Axis} {place : α}
    (ends : (around center size).EndsAt axis place) :
    ∃ p, Holds center size p ∧ p.along axis = place := by
  rcases ends with low | high
  · exact ⟨_, (isCorner_low center size).holds, low.symm⟩
  · exact ⟨_, (isCorner_high center size).holds, high.symm⟩

theorem EndsAt.of_includePoint {b : Box α} {p : Vec3 α} {axis : Axis} {place : α}
    (ends : (b.includePoint p).EndsAt axis place) : b.EndsAt axis place ∨ place = p.along axis := by
  simp only [includePoint, EndsAt, Vec3.along_zipWith] at ends
  rcases ends with low | high
  · rcases Scalar.lesser_eq_or (b.min.along axis) (p.along axis) with kept | moved
    · exact .inl (.inl (low.trans kept))
    · exact .inr (low.trans moved)
  · rcases Scalar.greater_eq_or (b.max.along axis) (p.along axis) with kept | moved
    · exact .inl (.inr (high.trans kept))
    · exact .inr (high.trans moved)

theorem EndsAt.of_includeBox {b : Box α} {center size : Vec3 α} {axis : Axis} {place : α}
    (ends : (b.includeBox center size).EndsAt axis place) :
    b.EndsAt axis place ∨ (around center size).EndsAt axis place := by
  rcases ends.of_includePoint with earlier | high
  · rcases earlier.of_includePoint with before | low
    · exact .inl before
    · exact .inr (.inl low)
  · exact .inr (.inr high)

theorem empty_includePoint {p : Vec3 α} (inRange : finite.Contains p) :
    empty.includePoint p = ⟨p, p⟩ := by
  obtain ⟨above, below⟩ := inRange
  refine Box.ext (Vec3.ext_along fun axis => ?_) (Vec3.ext_along fun axis => ?_)
  · rw [includePoint, Vec3.along_zipWith]
    exact Scalar.lesser_eq_right (Vec3.le_iff_along.mp below axis)
  · rw [includePoint, Vec3.along_zipWith]
    exact Scalar.greater_eq_right (Vec3.le_iff_along.mp above axis)

theorem EndsAt.of_empty_includeBox {center size : Vec3 α} (inRange : (around center size).InRange)
    {axis : Axis} {place : α} (ends : (empty.includeBox center size).EndsAt axis place) :
    (around center size).EndsAt axis place := by
  have first : empty.includePoint (center - size.half) = ⟨center - size.half, center - size.half⟩ :=
    empty_includePoint inRange.1
  rw [includeBox, first] at ends
  rcases ends.of_includePoint with (low | low) | high
  · exact .inl low
  · exact .inl low
  · exact .inr high

theorem half_symmetricSize (b : Box α) (center : Vec3 α) (axis : Axis) :
    Scalar.half ((b.symmetricSize center).along axis) =
      Scalar.greater (b.max.along axis - center.along axis)
        (center.along axis - b.min.along axis) := by
  simp [symmetricSize, Scalar.half_double]

theorem half_symmetricSize_nonneg {b : Box α} (proper : b.min ≤ b.max) (center : Vec3 α)
    (axis : Axis) : 0 ≤ Scalar.half ((b.symmetricSize center).along axis) := by
  rw [half_symmetricSize]
  have spread := Vec3.le_iff_along.mp proper axis
  obtain ⟨up, down⟩ := (Scalar.greater_le_iff (b.max.along axis - center.along axis)
    (center.along axis - b.min.along axis) _).mp le_rfl
  linarith

/-- The end of the box that is farther away from the center sets the size. -/
theorem exists_farther_end {b : Box α} (proper : b.min ≤ b.max) (center : Vec3 α) (axis : Axis) :
    ∃ place, b.EndsAt axis place ∧
      |place - center.along axis| = Scalar.half ((b.symmetricSize center).along axis) := by
  have positive := half_symmetricSize_nonneg proper center axis
  rw [half_symmetricSize] at positive ⊢
  rcases Scalar.greater_eq_or (b.max.along axis - center.along axis)
    (center.along axis - b.min.along axis) with above | below
  · rw [above] at positive ⊢
    exact ⟨_, .inr rfl, abs_of_nonneg positive⟩
  · rw [below] at positive ⊢
    exact ⟨_, .inl rfl, (abs_sub_comm _ _).trans (abs_of_nonneg positive)⟩

end Box

end DetectorGeometry
