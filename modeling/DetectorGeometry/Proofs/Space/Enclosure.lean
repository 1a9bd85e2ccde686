import Mathlib.Algebra.Order.Group.Unbundled.Abs
import Mathlib.Order.Interval.Set.UnorderedInterval
import Mathlib.Tactic.Linarith
import DetectorGeometry.Proofs.Scalar.Exact
import DetectorGeometry.Space.Box

/-!
What axis-aligned boxes contain, with exact numbers. Growing a box is described by what the grown box
lies within: it lies within another box exactly if the old box and all that was included do. That the
grown box contains what was included, and that it is the smallest one to do so, both follow.
-/
namespace DetectorGeometry

variable {α : Type}

namespace Vec3

instance [LE α] : LE (Vec3 α) := ⟨fun v w => v.x ≤ w.x ∧ v.y ≤ w.y ∧ v.z ≤ w.z⟩

theorem le_iff [LE α] {v w : Vec3 α} : v ≤ w ↔ v.x ≤ w.x ∧ v.y ≤ w.y ∧ v.z ≤ w.z := Iff.rfl

instance [LE α] [DecidableLE α] : DecidableLE (Vec3 α) := fun v w =>
  inferInstanceAs (Decidable (v.x ≤ w.x ∧ v.y ≤ w.y ∧ v.z ≤ w.z))

instance [PartialOrder α] : PartialOrder (Vec3 α) where
  le_refl _ := ⟨le_rfl, le_rfl, le_rfl⟩
  le_trans _ _ _ h k := ⟨h.1.trans k.1, h.2.1.trans k.2.1, h.2.2.trans k.2.2⟩
  le_antisymm _ _ h k :=
    Vec3.ext (h.1.antisymm k.1) (h.2.1.antisymm k.2.1) (h.2.2.antisymm k.2.2)

end Vec3

variable [ExactScalar α]

namespace Vec3

theorem le_zipWith_lesser_iff (c v w : Vec3 α) :
    c ≤ zipWith Scalar.lesser v w ↔ c ≤ v ∧ c ≤ w := by
  simp only [le_iff, zipWith, Scalar.le_lesser_iff]
  constructor
  · rintro ⟨⟨xv, xw⟩, ⟨yv, yw⟩, zv, zw⟩
    exact ⟨⟨xv, yv, zv⟩, xw, yw, zw⟩
  · rintro ⟨⟨xv, yv, zv⟩, xw, yw, zw⟩
    exact ⟨⟨xv, xw⟩, ⟨yv, yw⟩, zv, zw⟩

theorem zipWith_greater_le_iff (v w c : Vec3 α) :
    zipWith Scalar.greater v w ≤ c ↔ v ≤ c ∧ w ≤ c := by
  simp only [le_iff, zipWith, Scalar.greater_le_iff]
  constructor
  · rintro ⟨⟨xv, xw⟩, ⟨yv, yw⟩, zv, zw⟩
    exact ⟨⟨xv, yv, zv⟩, xw, yw, zw⟩
  · rintro ⟨⟨xv, yv, zv⟩, xw, yw, zw⟩
    exact ⟨⟨xv, xw⟩, ⟨yv, yw⟩, zv, zw⟩

end Vec3

namespace Box

def Contains (b : Box α) (p : Vec3 α) : Prop := b.min ≤ p ∧ p ≤ b.max

def Within (b c : Box α) : Prop := c.min ≤ b.min ∧ b.max ≤ c.max

/-- A box given by center and full size holds the points at most half the size away from the center
on every axis. -/
structure Holds (center size p : Vec3 α) : Prop where
  x : |p.x - center.x| ≤ |size.half.x|
  y : |p.y - center.y| ≤ |size.half.y|
  z : |p.z - center.z| ≤ |size.half.z|

/-- The corners are the points exactly half the size away on every axis. -/
structure IsCorner (center size p : Vec3 α) : Prop where
  x : |p.x - center.x| = |size.half.x|
  y : |p.y - center.y| = |size.half.y|
  z : |p.z - center.z| = |size.half.z|

instance (b : Box α) (p : Vec3 α) : Decidable (b.Contains p) :=
  inferInstanceAs (Decidable (b.min ≤ p ∧ p ≤ b.max))

instance (b c : Box α) : Decidable (b.Within c) :=
  inferInstanceAs (Decidable (c.min ≤ b.min ∧ b.max ≤ c.max))

theorem Within.rfl {b : Box α} : b.Within b := ⟨le_rfl, le_rfl⟩

theorem origin_within_iff {c : Box α} : origin.Within c ↔ c.Contains .zero := Iff.rfl

theorem includePoint_within_iff {b c : Box α} {p : Vec3 α} :
    (b.includePoint p).Within c ↔ b.Within c ∧ c.Contains p := by
  unfold Within Contains includePoint
  rw [Vec3.le_zipWith_lesser_iff, Vec3.zipWith_greater_le_iff]
  exact and_and_and_comm

theorem includePoints_within_iff {b c : Box α} {ps : List (Vec3 α)} :
    (b.includePoints ps).Within c ↔ b.Within c ∧ ∀ p ∈ ps, c.Contains p := by
  induction ps generalizing b with
  | nil => exact ⟨fun within => ⟨within, fun _ none => nomatch none⟩, And.left⟩
  | cons p ps ih =>
    have step : b.includePoints (p :: ps) = (b.includePoint p).includePoints ps := rfl
    rw [step, ih, includePoint_within_iff, List.forall_mem_cons, and_assoc]

theorem mem_uIcc_of_abs_sub_le {a c h : α} (near : |a - c| ≤ |h|) :
    a ∈ Set.uIcc (c - h) (c + h) := by
  obtain ⟨below, above⟩ := abs_le.1 near
  rcases le_total 0 h with positive | negative
  · rw [abs_of_nonneg positive] at below above
    exact Set.mem_uIcc.2 (.inl ⟨by linarith, by linarith⟩)
  · rw [abs_of_nonpos negative] at below above
    exact Set.mem_uIcc.2 (.inr ⟨by linarith, by linarith⟩)

theorem abs_sub_le_abs {a c low high r : α} (above : low ≤ a) (below : a ≤ high)
    (down : c - low ≤ r) (up : high - c ≤ r) : |a - c| ≤ |r| :=
  (abs_le.2 ⟨by linarith, by linarith⟩).trans (le_abs_self r)

theorem abs_sub_eq_iff {a c h : α} : |a - c| = |h| ↔ a = c + h ∨ a = c - h := by
  rw [abs_eq_abs, sub_eq_iff_eq_add, sub_eq_iff_eq_add, add_comm h, neg_add_eq_sub]

theorem IsCorner.holds {center size p : Vec3 α} (corner : IsCorner center size p) :
    Holds center size p :=
  ⟨corner.x.le, corner.y.le, corner.z.le⟩

theorem isCorner_low (center size : Vec3 α) : IsCorner center size (center - size.half) := by
  constructor <;> simp

theorem isCorner_high (center size : Vec3 α) : IsCorner center size (center + size.half) := by
  constructor <;> simp

theorem mem_corners_iff {center size p : Vec3 α} :
    p ∈ corners center size ↔ IsCorner center size p := by
  simp only [corners, List.mem_flatMap, List.mem_map, List.mem_cons, List.not_mem_nil,
    or_false]
  constructor
  · rintro ⟨x, hx, y, hy, z, hz, rfl⟩
    exact ⟨abs_sub_eq_iff.2 hx, abs_sub_eq_iff.2 hy, abs_sub_eq_iff.2 hz⟩
  · rintro ⟨hx, hy, hz⟩
    exact ⟨p.x, abs_sub_eq_iff.1 hx, p.y, abs_sub_eq_iff.1 hy, p.z, abs_sub_eq_iff.1 hz, rfl⟩

theorem Contains.of_holds {b : Box α} {center size p : Vec3 α}
    (low : b.Contains (center - size.half)) (high : b.Contains (center + size.half))
    (held : Holds center size p) : b.Contains p := by
  have x := Set.uIcc_subset_Icc ⟨low.1.1, low.2.1⟩ ⟨high.1.1, high.2.1⟩
    (mem_uIcc_of_abs_sub_le held.x)
  have y := Set.uIcc_subset_Icc ⟨low.1.2.1, low.2.2.1⟩ ⟨high.1.2.1, high.2.2.1⟩
    (mem_uIcc_of_abs_sub_le held.y)
  have z := Set.uIcc_subset_Icc ⟨low.1.2.2, low.2.2.2⟩ ⟨high.1.2.2, high.2.2.2⟩
    (mem_uIcc_of_abs_sub_le held.z)
  exact ⟨⟨x.1, y.1, z.1⟩, ⟨x.2, y.2, z.2⟩⟩

theorem includeBox_within_iff {b c : Box α} {center size : Vec3 α} :
    (b.includeBox center size).Within c ↔
      b.Within c ∧ ∀ p, Holds center size p → c.Contains p := by
  unfold includeBox
  rw [includePoint_within_iff, includePoint_within_iff, and_assoc, and_congr_right_iff]
  intro _
  constructor
  · rintro ⟨low, high⟩ p held
    exact .of_holds low high held
  · intro all
    exact ⟨all _ (isCorner_low center size).holds, all _ (isCorner_high center size).holds⟩

/-- The symmetric size around a point spans a box that holds all that the box contains. -/
theorem Contains.holds_symmetricSize {b : Box α} {p : Vec3 α} (center : Vec3 α)
    (inside : b.Contains p) : Holds center (b.symmetricSize center) p := by
  have reach : Vec3.zipWith Scalar.greater (b.max - center) (center - b.min) ≤
      (b.symmetricSize center).half := by
    simp [symmetricSize, Vec3.half, Vec3.map, Scalar.half_double]
  obtain ⟨up, down⟩ := (Vec3.zipWith_greater_le_iff _ _ _).1 reach
  exact ⟨abs_sub_le_abs inside.1.1 inside.2.1 down.1 up.1,
    abs_sub_le_abs inside.1.2.1 inside.2.2.1 down.2.1 up.2.1,
    abs_sub_le_abs inside.1.2.2 inside.2.2.2 down.2.2 up.2.2⟩

end Box

end DetectorGeometry
