import DetectorGeometry.Proofs.Scalar.Comparison
import DetectorGeometry.Proofs.Scalar.NotANumber

/-!
The order of doubles. The bits of a double behind its sign bit, read as one number, count the
doubles from zero on; with the sign put back they are the height of the double, and numbers compare
as their heights do (`Double.le_iff_height`). So the order is transitive, and total on numbers.
Heights other than zero belong to one double each (`Double.eq_of_height_eq`), and no finite number
lies beyond the largest one (`Double.abs_height_le`).
-/
namespace DetectorGeometry.Double

open Float.Model UnpackedFloat

def heightOfBits (b : BitVec (Format.numBits .binary64)) : Int :=
  (Sign.ofBitVec (unpackSign b)).apply
    ((unpackExponent b).toNat * 2 ^ 52 + (unpackMantissa b).toNat : Nat)

def height (x : Float) : Int := heightOfBits x.toModel.toBits.toBitVec

/-- The height of an unpacked number. Mantissas that need fewer bits than there are belong to the
least exponent, so that heights of one exponent follow on those of the exponent before. -/
inductive HasHeight : UnpackedFloat → Int → Prop
  | infinity (sign : Sign) : HasHeight (.infinity sign) (sign.apply (2047 * 2 ^ 52))
  | zero (sign : Sign) : HasHeight (.zero sign) 0
  | finite (sign : Sign) {mantissa : Nat} {exponent height : Int} (positive : 0 < mantissa)
      (least : -1074 ≤ exponent) (most : exponent ≤ 971) (fits : mantissa < 2 ^ 53)
      (normal : exponent = -1074 ∨ 2 ^ 52 ≤ mantissa)
      (steps : height = (exponent + 1074) * 2 ^ 52 + mantissa) :
      HasHeight (.finite sign mantissa exponent positive) (sign.apply height)

theorem hasHeight_unpack {b : BitVec (Format.numBits .binary64)}
    (number : (UnpackedFloat.unpack .binary64 b).isNaN = false) :
    HasHeight (UnpackedFloat.unpack .binary64 b) (heightOfBits b) := by
  have mantissaFits : (unpackMantissa b).toNat < 2 ^ 52 := (unpackMantissa b).isLt
  have exponentFits : (unpackExponent b).toNat < 2 ^ 11 := (unpackExponent b).isLt
  have bias : Format.binary64.exponentBias = 1023 := rfl
  revert number
  simp only [UnpackedFloat.unpack, heightOfBits]
  split
  case isTrue full =>
    split
    case isTrue empty =>
      intro _
      rw [full, empty]
      exact .infinity _
    case isFalse =>
      intro notANumber
      cases notANumber
  case isFalse notFull =>
    have below : (unpackExponent b).toNat ≠ 2047 := fun full =>
      notFull (BitVec.eq_of_toNat_eq full)
    split
    case isTrue lowest =>
      have none : (unpackExponent b).toNat = 0 := by
        rw [lowest]
        rfl
      split
      case isTrue empty =>
        have nothing (sign : Sign) : sign.apply 0 = 0 := by cases sign <;> rfl
        intro _
        rw [lowest, empty]
        simpa [nothing] using HasHeight.zero (Sign.ofBitVec (unpackSign b))
      case isFalse =>
        intro _
        apply HasHeight.finite <;> omega
    case isFalse notLowest =>
      have above : (unpackExponent b).toNat ≠ 0 := fun lowest =>
        notLowest (BitVec.eq_of_toNat_eq lowest)
      have leading : (1#1 ++ unpackMantissa b).toNat = 2 ^ 52 + (unpackMantissa b).toNat := by
        rw [BitVec.toNat_append, ← Nat.shiftLeft_add_eq_or_of_lt (unpackMantissa b).isLt]
        rfl
      intro _
      apply HasHeight.finite <;> omega

theorem hasHeight {x : Float} (number : x.isNaN = false) :
    HasHeight x.toModel.unpack (height x) :=
  hasHeight_unpack number

theorem isLE_then_iff {e e' : Int} {m m' : Nat} :
    ((compare e e').then (compare m m')).isLE = true ↔ e < e' ∨ e = e' ∧ m ≤ m' := by
  simp only [Ordering.isLE_iff_eq_lt_or_eq_eq, Ordering.then_eq_lt, Ordering.then_eq_eq,
    compare_lt_iff_lt, compare_eq_iff_eq]
  omega

theorem le_iff_of_hasHeight {u v : UnpackedFloat} {a b : Int} (high : HasHeight u a)
    (high' : HasHeight v b) : u.le v = true ↔ a ≤ b := by
  cases high with
  | infinity sign =>
    cases high' with
    | infinity sign' => cases sign <;> cases sign' <;> decide
    | zero => cases sign <;> simp [UnpackedFloat.le, UnpackedFloat.compare, Sign.apply]
    | finite sign' =>
      cases sign <;> cases sign' <;>
        simp [UnpackedFloat.le, UnpackedFloat.compare, Sign.apply] <;> omega
  | zero =>
    cases high' with
    | infinity sign' => cases sign' <;> simp [UnpackedFloat.le, UnpackedFloat.compare, Sign.apply]
    | zero => simp [UnpackedFloat.le, UnpackedFloat.compare]
    | finite sign' =>
      cases sign' <;> simp [UnpackedFloat.le, UnpackedFloat.compare, Sign.apply] <;> omega
  | finite sign =>
    cases high' with
    | infinity sign' =>
      cases sign <;> cases sign' <;>
        simp [UnpackedFloat.le, UnpackedFloat.compare, Sign.apply] <;> omega
    | zero => cases sign <;> simp [UnpackedFloat.le, UnpackedFloat.compare, Sign.apply] <;> omega
    | finite sign' =>
      cases sign <;> cases sign' <;>
        simp [UnpackedFloat.le, UnpackedFloat.compare, Sign.apply, Ordering.swap_then,
          Int.compare_swap, Nat.compare_swap, isLE_then_iff] <;> omega

theorem le_iff_height {x y : Float} (number : x.isNaN = false) (number' : y.isNaN = false) :
    x ≤ y ↔ height x ≤ height y :=
  le_iff.trans (le_iff_of_hasHeight (hasHeight number) (hasHeight number'))

theorem isNaN_of_region {x : Float} {a : Int} (lies : region x.toModel.unpack = some a) :
    x.isNaN = false := by
  show x.toModel.unpack.isNaN = false
  cases form : x.toModel.unpack with
  | notANumber =>
    rw [form] at lies
    cases lies
  | infinity => rfl
  | zero => rfl
  | finite => rfl

theorem isNaN_of_le {x y : Float} (below : x ≤ y) : x.isNaN = false ∧ y.isNaN = false := by
  obtain ⟨_, _, lies, lies', _⟩ := exists_region_le (le_iff.mp below)
  exact ⟨isNaN_of_region lies, isNaN_of_region lies'⟩

theorem le_trans {x y z : Float} (first : x ≤ y) (second : y ≤ z) : x ≤ z := by
  obtain ⟨number, number'⟩ := isNaN_of_le first
  obtain ⟨_, number''⟩ := isNaN_of_le second
  rw [le_iff_height number number'] at first
  rw [le_iff_height number' number''] at second
  exact (le_iff_height number number'').mpr (first.trans second)

theorem le_total {x y : Float} (number : x.isNaN = false) (number' : y.isNaN = false) :
    x ≤ y ∨ y ≤ x := by
  rw [le_iff_height number number', le_iff_height number' number]
  exact Int.le_total _ _

theorem toNat_eq_parts (b : BitVec (Format.numBits .binary64)) :
    b.toNat = (unpackSign b).toNat * 2 ^ 63 +
      ((unpackExponent b).toNat * 2 ^ 52 + (unpackMantissa b).toNat) := by
  have mantissa : (unpackMantissa b).toNat = b.toNat % 2 ^ 52 := by
    simp [unpackMantissa]
  have exponent : (unpackExponent b).toNat = b.toNat / 2 ^ 52 % 2 ^ 11 := by
    simp [unpackExponent, Nat.shiftRight_eq_div_pow]
  have sign : (unpackSign b).toNat = b.toNat / 2 ^ 63 % 2 := by
    simp [unpackSign, Nat.shiftRight_eq_div_pow]
  have fits : b.toNat < 2 ^ 64 := b.isLt
  rw [mantissa, exponent, sign]
  omega

theorem apply_ofBitVec (bit : BitVec 1) (n : Nat) :
    (Sign.ofBitVec bit).apply n = if bit.toNat = 0 then (n : Int) else -n := by
  rcases BitVec.eq_zero_or_eq_one bit with rfl | rfl <;> rfl

theorem eq_of_heightOfBits_eq {b c : BitVec (Format.numBits .binary64)}
    (same : heightOfBits b = heightOfBits c) (nonzero : heightOfBits b ≠ 0) : b = c := by
  apply BitVec.eq_of_toNat_eq
  have parts := toNat_eq_parts b
  have parts' := toNat_eq_parts c
  have bit : (unpackSign b).toNat < 2 := (unpackSign b).isLt
  have bit' : (unpackSign c).toNat < 2 := (unpackSign c).isLt
  simp only [heightOfBits, apply_ofBitVec] at same nonzero
  split at same <;> split at same <;> omega

theorem eq_of_height_eq {x y : Float} (same : height x = height y) (nonzero : height x ≠ 0) :
    x = y := by
  obtain ⟨⟨⟨bits⟩, _⟩⟩ := x
  obtain ⟨⟨⟨bits'⟩, _⟩⟩ := y
  cases eq_of_heightOfBits_eq same nonzero
  rfl

theorem height_largest : height Scalar.largest = 2 ^ 63 - 2 ^ 52 - 1 := by decide +kernel

theorem height_neg_largest : height (-Scalar.largest) = -(2 ^ 63 - 2 ^ 52 - 1) := by
  decide +kernel

theorem isNaN_largest : (Scalar.largest : Float).isNaN = false := by decide +kernel

theorem abs_le_of_hasHeight {u : UnpackedFloat} {a : Int} (high : HasHeight u a)
    (finite : u.isFinite = true) : |a| ≤ 2 ^ 63 - 2 ^ 52 - 1 := by
  cases high with
  | infinity => cases finite
  | zero => decide
  | finite sign _ _ most fits _ steps =>
    rw [abs_le]
    cases sign <;> simp only [Sign.apply] <;> omega

theorem abs_height_le {x : Float} (finite : x.isFinite = true) :
    |height x| ≤ 2 ^ 63 - 2 ^ 52 - 1 :=
  abs_le_of_hasHeight (hasHeight (isNaN_of_isFinite finite)) finite

theorem eq_largest {x : Float} (finite : x.isFinite = true) (above : Scalar.largest ≤ x) :
    x = Scalar.largest := by
  obtain ⟨_, below⟩ := abs_le.mp (abs_height_le finite)
  rw [le_iff_height isNaN_largest (isNaN_of_isFinite finite), height_largest] at above
  apply eq_of_height_eq
  · rw [height_largest]
    omega
  · omega

theorem eq_neg_largest {x : Float} (finite : x.isFinite = true) (below : x ≤ -Scalar.largest) :
    x = -Scalar.largest := by
  obtain ⟨above, _⟩ := abs_le.mp (abs_height_le finite)
  rw [le_iff_height (isNaN_of_isFinite finite) (isNaN_neg isNaN_largest), height_neg_largest]
    at below
  apply eq_of_height_eq
  · rw [height_neg_largest]
    omega
  · omega

end DetectorGeometry.Double
