import Mathlib.Analysis.Real.Sqrt
import Mathlib.Analysis.SpecialFunctions.Trigonometric.Basic
import Mathlib.Tactic.LinearCombination
import DetectorGeometry.Proofs.Scalar.Exact

namespace DetectorGeometry

/-- Numbers whose root, where there is one, gives the number again when it is squared. -/
class ExactRoots (α : Type) [ExactScalar α] : Prop where
  sqrt_mul_self (x : α) : 0 ≤ x → Scalar.sqrt x * Scalar.sqrt x = x

namespace Scalar

variable {α : Type} [ExactScalar α] [ExactRoots α]

theorem half_sqrt_mul {a : α} (positive : 0 < a) : half (sqrt a) * double (sqrt a) = a := by
  rw [half_eq, double_eq, div_mul_eq_mul_div, ← mul_assoc,
    ExactRoots.sqrt_mul_self a positive.le, mul_div_cancel_right₀ a two_ne_zero]

theorem div_sqrt_mul {a : α} (positive : 0 < a) (b : α) :
    b / double (sqrt a) * double (sqrt a) = b := by
  refine div_mul_cancel₀ b fun zero => positive.ne' ?_
  rw [← half_sqrt_mul positive, zero, mul_zero]

theorem double_sqrt_mul_self {a : α} (positive : 0 < a) :
    double (sqrt a) * double (sqrt a) = 4 * a := by
  have root := ExactRoots.sqrt_mul_self a positive.le
  rw [double_eq]
  linear_combination 4 * root

end Scalar

/-- The laws of sine and cosine that turns rest on. -/
class LawfulTrigonometry (α : Type) [ExactScalar α] [Trigonometry α] : Prop where
  sin_sq_add_cos_sq (x : α) : Trigonometry.sin x ^ 2 + Trigonometry.cos x ^ 2 = 1
  sin_neg (x : α) : Trigonometry.sin (-x) = -Trigonometry.sin x
  cos_neg (x : α) : Trigonometry.cos (-x) = Trigonometry.cos x

theorem Reals.cast_decimal (mantissa : Nat) (exponent : Int) :
    ((Scalar.decimal mantissa exponent : ℚ) : ℝ) = mantissa * 10 ^ exponent := by
  rw [Scalar.decimal_eq, Rat.cast_mul, Rat.cast_natCast, Rat.cast_zpow, Rat.cast_ofNat]

noncomputable instance Reals.exactScalar : ExactScalar ℝ where
  decideLE := inferInstance
  decideLT := inferInstance
  decimal mantissa exponent := ((Scalar.decimal mantissa exponent : ℚ) : ℝ)
  decimal_eq := Reals.cast_decimal
  largest := ((2 ^ 1024 - 2 ^ 971 : Nat) : ℝ)
  pi := Real.pi
  isFinite _ := true
  sqrt := Real.sqrt

instance Reals.exactRoots : ExactRoots ℝ := ⟨fun _ => Real.mul_self_sqrt⟩

noncomputable instance Reals.trigonometry : Trigonometry ℝ := ⟨Real.sin, Real.cos⟩

@[simp] theorem Reals.sin_eq (x : ℝ) : Trigonometry.sin x = Real.sin x := rfl
@[simp] theorem Reals.cos_eq (x : ℝ) : Trigonometry.cos x = Real.cos x := rfl

instance Reals.lawfulTrigonometry : LawfulTrigonometry ℝ :=
  ⟨Real.sin_sq_add_cos_sq, Real.sin_neg, Real.cos_neg⟩

end DetectorGeometry
