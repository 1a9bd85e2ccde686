import Mathlib
import DetectorGeometry.Scalar.Double

/-!
How doubles compare. A double that is a number lies in one of five regions, from minus infinity to
infinity with both zeros in the middle, and the order of doubles respects the regions
(`Double.exists_region_le`). Doubles that compare as equal are numbers of one region
(`Double.exists_region_of_beq`), and every number compares as equal to itself (`Double.beq_self`).
-/
namespace DetectorGeometry.Double

open Float.Model UnpackedFloat

/-- Infinities are two steps away from zero and other numbers one. -/
def region : UnpackedFloat → Option Int
  | .notANumber => none
  | .infinity .negative => some (-2)
  | .finite .negative .. => some (-1)
  | .zero _ => some 0
  | .finite .positive .. => some 1
  | .infinity .positive => some 2

theorem compare_signs : compare Sign.positive Sign.negative = .gt := rfl

theorem compare_signs_swapped : compare Sign.negative Sign.positive = .lt := rfl

theorem compare_sign_self (sign : Sign) : compare sign sign = .eq := by cases sign <;> rfl

theorem exists_region_le {u v : UnpackedFloat} (below : u.le v = true) :
    ∃ a b, region u = some a ∧ region v = some b ∧ a ≤ b := by
  rcases u with ⟨⟨⟩⟩ | _ | _ | ⟨⟨⟩⟩ <;> rcases v with ⟨⟨⟩⟩ | _ | _ | ⟨⟨⟩⟩ <;>
    simp_all [region, UnpackedFloat.le, UnpackedFloat.compare, compare_signs]

theorem le_self {u : UnpackedFloat} (number : u.isNaN = false) : u.le u = true := by
  rcases u with ⟨⟨⟩⟩ | _ | _ | ⟨⟨⟩⟩ <;>
    simp_all [UnpackedFloat.le, UnpackedFloat.compare, UnpackedFloat.isNaN, compare_sign_self]

theorem compare_swap (u v : UnpackedFloat) : v.compare u = (u.compare v).map Ordering.swap := by
  rcases u with ⟨⟨⟩⟩ | _ | _ | ⟨⟨⟩⟩ <;> rcases v with ⟨⟨⟩⟩ | _ | _ | ⟨⟨⟩⟩ <;>
    simp [UnpackedFloat.compare, Ordering.swap_then, Int.compare_swap, Nat.compare_swap,
      compare_signs, compare_signs_swapped, compare_sign_self]

theorem zero_le_iff {sign : Sign} {u : UnpackedFloat} :
    (UnpackedFloat.zero sign).le u = true ↔ ∃ a, region u = some a ∧ 0 ≤ a := by
  rcases u with ⟨⟨⟩⟩ | _ | _ | ⟨⟨⟩⟩ <;>
    simp [region, UnpackedFloat.le, UnpackedFloat.compare]

theorem lt_zero_iff {sign : Sign} {u : UnpackedFloat} :
    u.lt (.zero sign) = true ↔ ∃ a, region u = some a ∧ a < 0 := by
  rcases u with ⟨⟨⟩⟩ | _ | _ | ⟨⟨⟩⟩ <;>
    simp [region, UnpackedFloat.lt, UnpackedFloat.compare]

theorem isFinite_unpacked_iff {u : UnpackedFloat} :
    u.isFinite = true ↔ ∃ a, region u = some a ∧ -2 < a ∧ a < 2 := by
  rcases u with ⟨⟨⟩⟩ | _ | _ | ⟨⟨⟩⟩ <;> simp [region, UnpackedFloat.isFinite]

theorem le_iff {x y : Float} : x ≤ y ↔ x.toModel.unpack.le y.toModel.unpack = true :=
  decide_eq_true_iff

theorem lt_iff {x y : Float} : x < y ↔ x.toModel.unpack.lt y.toModel.unpack = true :=
  decide_eq_true_iff

theorem unpack_zero : (0 : Float).toModel.unpack = .zero .positive := rfl

theorem equal_iff {x y : Float} : Scalar.equal x y = true ↔ x ≤ y ∧ y ≤ x := by
  rw [Scalar.equal, Bool.and_eq_true, decide_eq_true_iff, decide_eq_true_iff]

theorem equal_eq_beq (x y : Float) : Scalar.equal x y = (x == y) := by
  have unpacked : (x == y) = x.toModel.unpack.beq y.toModel.unpack := rfl
  rw [unpacked, Bool.eq_iff_iff, equal_iff, le_iff, le_iff, UnpackedFloat.le, UnpackedFloat.le,
    UnpackedFloat.beq, compare_swap x.toModel.unpack]
  cases x.toModel.unpack.compare y.toModel.unpack with
  | none => simp
  | some order => cases order <;> simp

theorem beq_self {x : Float} (number : x.isNaN = false) : (x == x) = true := by
  rw [← equal_eq_beq, equal_iff]
  exact ⟨le_iff.mpr (le_self number), le_iff.mpr (le_self number)⟩

theorem exists_region_of_beq {x y : Float} (same : (x == y) = true) :
    ∃ a, region x.toModel.unpack = some a ∧ region y.toModel.unpack = some a := by
  rw [← equal_eq_beq, equal_iff] at same
  obtain ⟨a, b, lies, lies', le⟩ := exists_region_le (le_iff.mp same.1)
  obtain ⟨c, d, lies'', lies''', ge⟩ := exists_region_le (le_iff.mp same.2)
  cases lies'.symm.trans lies''
  cases lies.symm.trans lies'''
  cases le_antisymm le ge
  exact ⟨a, lies, lies'⟩

theorem isFinite_iff {x : Float} :
    x.isFinite = true ↔ ∃ a, region x.toModel.unpack = some a ∧ -2 < a ∧ a < 2 :=
  isFinite_unpacked_iff

theorem finite_nonneg_iff {x : Float} :
    x.isFinite = true ∧ 0 ≤ x ↔ ∃ a, region x.toModel.unpack = some a ∧ 0 ≤ a ∧ a < 2 := by
  rw [isFinite_iff, le_iff, unpack_zero, zero_le_iff]
  cases region x.toModel.unpack with
  | none => simp
  | some a =>
    simp only [Option.some.injEq, exists_eq_left']
    omega

theorem finite_not_neg_iff {x : Float} :
    x.isFinite = true ∧ ¬ x < 0 ↔ x.isFinite = true ∧ 0 ≤ x := by
  rw [finite_nonneg_iff, isFinite_iff, lt_iff, unpack_zero, lt_zero_iff]
  cases region x.toModel.unpack with
  | none => simp
  | some a =>
    simp only [Option.some.injEq, exists_eq_left']
    omega

end DetectorGeometry.Double
