import Mathlib.Algebra.Order.Field.Basic
import Mathlib.Algebra.Order.Field.Rat
import Mathlib.Data.Rat.Sqrt
import DetectorGeometry.Scalar.Basic

/-!
Exact scalars: ordered fields whose own operations are the ones that geometry is written in.
Nothing is asked of the root, which then need not be exact. Rational numbers are the instance that
computes.
-/
namespace DetectorGeometry

/-- Numbers without rounding: the operations of a scalar obey the laws of an ordered field. -/
class ExactScalar (α : Type) extends
    Field α, LinearOrder α, IsStrictOrderedRing α, Scalar α where
  decimal_eq (mantissa : Nat) (exponent : Int) : decimal mantissa exponent = mantissa * 10 ^ exponent

namespace Scalar

section Exact

variable {α : Type} [ExactScalar α]

theorem decimal_eq (mantissa : Nat) (exponent : Int) :
    decimal mantissa exponent = (mantissa * 10 ^ exponent : α) :=
  ExactScalar.decimal_eq mantissa exponent

theorem half_eq (x : α) : half x = x / 2 := by
  unfold half
  rw [Nat.cast_ofNat]

theorem double_eq (x : α) : double x = x * 2 := by
  unfold double
  rw [Nat.cast_ofNat]

theorem half_double (x : α) : half (double x) = x := by
  rw [half_eq, double, Nat.cast_ofNat]
  exact mul_div_cancel_right₀ x two_ne_zero

theorem le_lesser_iff (c a b : α) : c ≤ lesser a b ↔ c ≤ a ∧ c ≤ b := by
  unfold lesser
  split
  case isTrue h => exact ⟨fun hc => ⟨hc, hc.trans h⟩, And.left⟩
  case isFalse h => exact ⟨fun hc => ⟨hc.trans (not_le.1 h).le, hc⟩, And.right⟩

theorem greater_le_iff (a b c : α) : greater a b ≤ c ↔ a ≤ c ∧ b ≤ c := by
  unfold greater
  split
  case isTrue h => exact ⟨fun hc => ⟨hc, h.trans hc⟩, And.left⟩
  case isFalse h => exact ⟨fun hc => ⟨(not_le.1 h).le.trans hc, hc⟩, And.right⟩

end Exact

end Scalar

instance Rational.exactScalar : ExactScalar ℚ where
  decideLE := inferInstance
  decideLT := inferInstance
  decimal mantissa exponent := mantissa * 10 ^ exponent
  decimal_eq _ _ := rfl
  largest := ((2 ^ 1024 - 2 ^ 971 : Nat) : ℚ)
  pi := 884279719003555 / 281474976710656
  isFinite _ := true
  sqrt := Rat.sqrt

end DetectorGeometry
