import Mathlib.Analysis.Convex.Segment
import Mathlib.Tactic.Ring
import DetectorGeometry.Proofs.Space.Enclosure
import DetectorGeometry.Space.RigidMotion

namespace DetectorGeometry

variable {α : Type} [ExactScalar α]

structure Weights (s t : α) : Prop where
  left : 0 ≤ s
  right : 0 ≤ t
  sum : s + t = 1

namespace Weights

variable {s t : α}

theorem mean_self (weights : Weights s t) (a : α) : s * a + t * a = a := by
  rw [← add_mul, weights.sum, one_mul]

theorem le_mean (weights : Weights s t) {low a b : α} (ha : low ≤ a) (hb : low ≤ b) :
    low ≤ s * a + t * b :=
  calc
    low = s * low + t * low := (weights.mean_self low).symm
    _ ≤ s * a + t * b :=
      add_le_add (mul_le_mul_of_nonneg_left ha weights.left)
        (mul_le_mul_of_nonneg_left hb weights.right)

theorem mean_le (weights : Weights s t) {high a b : α} (ha : a ≤ high) (hb : b ≤ high) :
    s * a + t * b ≤ high :=
  calc
    s * a + t * b ≤ s * high + t * high :=
      add_le_add (mul_le_mul_of_nonneg_left ha weights.left)
        (mul_le_mul_of_nonneg_left hb weights.right)
    _ = high := weights.mean_self high

end Weights

theorem exists_weights {a low high : α} (between : a ∈ Set.uIcc low high) :
    ∃ s t, Weights s t ∧ a = s * low + t * high := by
  rw [← segment_eq_uIcc] at between
  obtain ⟨s, t, left, right, sum, mean⟩ := between
  exact ⟨s, t, ⟨left, right, sum⟩, mean.symm⟩

namespace Vec3

def mix (s t : α) (p q : Vec3 α) : Vec3 α := zipWith (fun a b => s * a + t * b) p q

variable {s t : α}

theorem mix_along_x (weights : Weights s t) (a b y z : α) :
    mix s t ⟨a, y, z⟩ ⟨b, y, z⟩ = ⟨s * a + t * b, y, z⟩ :=
  Vec3.ext rfl (weights.mean_self y) (weights.mean_self z)

theorem mix_along_y (weights : Weights s t) (x a b z : α) :
    mix s t ⟨x, a, z⟩ ⟨x, b, z⟩ = ⟨x, s * a + t * b, z⟩ :=
  Vec3.ext (weights.mean_self x) rfl (weights.mean_self z)

theorem mix_along_z (weights : Weights s t) (x y a b : α) :
    mix s t ⟨x, y, a⟩ ⟨x, y, b⟩ = ⟨x, y, s * a + t * b⟩ :=
  Vec3.ext (weights.mean_self x) (weights.mean_self y) rfl

end Vec3

theorem Box.Contains.mix {b : Box α} {s t : α} (weights : Weights s t) {p q : Vec3 α}
    (hp : b.Contains p) (hq : b.Contains q) : b.Contains (Vec3.mix s t p q) :=
  ⟨⟨weights.le_mean hp.1.1 hq.1.1, weights.le_mean hp.1.2.1 hq.1.2.1,
    weights.le_mean hp.1.2.2 hq.1.2.2⟩,
   ⟨weights.mean_le hp.2.1 hq.2.1, weights.mean_le hp.2.2.1 hq.2.2.1,
    weights.mean_le hp.2.2.2 hq.2.2.2⟩⟩

theorem Quaternion.apply_mix (r : Quaternion α) (s t : α) (p q : Vec3 α) :
    r.apply (Vec3.mix s t p q) = Vec3.mix s t (r.apply p) (r.apply q) := by
  ext <;> simp [Quaternion.apply, Vec3.mix, Vec3.zipWith, Vec3.map, Vec3.cross, Scalar.double] <;>
    ring

namespace RigidMotion

variable (m : RigidMotion α)

theorem apply_mix {s t : α} (weights : Weights s t) (p q : Vec3 α) :
    m.apply (Vec3.mix s t p q) = Vec3.mix s t (m.apply p) (m.apply q) := by
  have shifted (a b c : α) : s * a + t * b + c = s * (a + c) + t * (b + c) := by
    rw [mul_add, mul_add, add_add_add_comm, weights.mean_self]
  rw [apply_eq, apply_eq, apply_eq, Quaternion.apply_mix]
  exact Vec3.ext (shifted _ _ _) (shifted _ _ _) (shifted _ _ _)

/-- An axis-aligned box that contains the images of the eight corners contains the image of every
point between them. -/
theorem contains_apply_of_corners {b : Box α} {center size : Vec3 α}
    (corners : ∀ p, Box.IsCorner center size p → b.Contains (m.apply p)) {p : Vec3 α}
    (held : Box.Holds center size p) : b.Contains (m.apply p) := by
  have low (c h : α) : |c - h - c| = |h| := Box.abs_sub_eq_iff.2 (.inr rfl)
  have high (c h : α) : |c + h - c| = |h| := Box.abs_sub_eq_iff.2 (.inl rfl)
  obtain ⟨px, py, pz⟩ := p
  have edge (x y : α) (hx : |x - center.x| = |size.half.x|) (hy : |y - center.y| = |size.half.y|) :
      b.Contains (m.apply ⟨x, y, pz⟩) := by
    obtain ⟨s, t, weights, rfl⟩ := exists_weights (Box.mem_uIcc_of_abs_sub_le held.z)
    rw [← Vec3.mix_along_z weights, m.apply_mix weights]
    exact .mix weights (corners _ ⟨hx, hy, low _ _⟩) (corners _ ⟨hx, hy, high _ _⟩)
  have face (x : α) (hx : |x - center.x| = |size.half.x|) : b.Contains (m.apply ⟨x, py, pz⟩) := by
    obtain ⟨s, t, weights, rfl⟩ := exists_weights (Box.mem_uIcc_of_abs_sub_le held.y)
    rw [← Vec3.mix_along_y weights, m.apply_mix weights]
    exact .mix weights (edge _ _ hx (low _ _)) (edge _ _ hx (high _ _))
  obtain ⟨s, t, weights, rfl⟩ := exists_weights (Box.mem_uIcc_of_abs_sub_le held.x)
  rw [← Vec3.mix_along_x weights, m.apply_mix weights]
  exact .mix weights (face _ (low _ _)) (face _ (high _ _))

end RigidMotion

end DetectorGeometry
