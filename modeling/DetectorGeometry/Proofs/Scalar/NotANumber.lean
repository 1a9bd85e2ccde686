import Mathlib
import DetectorGeometry.Scalar.Double

/-!
No numeral reads as NaN, and neither does its product with a finite factor other than zero, nor the
sum of a finite number and any other. A double is the packed form of a sign, a mantissa and an
exponent; packing keeps what is a number apart from what is not, and arithmetic on unpacked forms
gives NaN in few cases.
-/
namespace DetectorGeometry.Double

open Float.Model UnpackedFloat

theorem ofNat_ne_neg_one {bits n : Nat} (below : n + 1 < 2 ^ bits) :
    BitVec.ofNat bits n ≠ -BitVec.ofNat bits 1 := by
  intro full
  have value := congrArg BitVec.toNat full
  rw [BitVec.toNat_ofNat, BitVec.neg_one_eq_allOnes, BitVec.toNat_allOnes,
    Nat.mod_eq_of_lt (by omega)] at value
  omega

theorem isNaN_unpack {spec : Format} {b : BitVec spec.numBits}
    (number : unpackExponent b = -BitVec.ofNat _ 1 → unpackMantissa b = BitVec.ofNat _ 0) :
    (UnpackedFloat.unpack spec b).isNaN = false := by
  simp only [UnpackedFloat.unpack]
  split
  case isTrue full => rw [if_pos (number full)]; rfl
  case isFalse =>
    split
    case isTrue => split <;> rfl
    case isFalse => rfl

theorem isNaN_pack {u : UnpackedFloat} (number : u.isNaN = false) :
    (Float.Model.pack u).isNaN = false := by
  apply isNaN_unpack
  cases u with
  | notANumber => cases number
  | infinity sign => exact fun _ => unpackMantissa_packComponents
  | zero sign => exact fun _ => unpackMantissa_packComponents
  | finite sign mantissa exponent positive =>
    show unpackExponent (UnpackedFloat.pack .binary64 _) = _ →
      unpackMantissa (UnpackedFloat.pack .binary64 _) = _
    simp only [UnpackedFloat.pack]
    split
    case isTrue overflow => exact fun _ => unpackMantissa_packComponents
    case isFalse below =>
      split
      case isTrue =>
        rw [unpackExponent_packComponents]
        exact fun full => absurd full (ofNat_ne_neg_one (by omega))
      case isFalse =>
        rw [unpackExponent_packComponents]
        exact fun full => absurd full (by decide)

theorem isNaN_roundWithAccuracy (spec : Format) (sign : Sign) (mantissa : Nat) (exponent : Int)
    (accuracy : Accuracy) :
    (roundWithAccuracy spec sign mantissa exponent accuracy).isNaN = false := by
  simp only [roundWithAccuracy]
  split <;> rfl

theorem isNaN_normalize (spec : Format) (mantissa exponent : Int) (sign : Sign) :
    (UnpackedFloat.normalize spec mantissa exponent sign).isNaN = false := by
  unfold UnpackedFloat.normalize
  split
  case h_1 => exact isNaN_roundWithAccuracy ..
  case h_2 => rfl
  case h_3 => exact isNaN_roundWithAccuracy ..

def isOrdinary : UnpackedFloat → Bool
  | .finite .. => true
  | _ => false

theorem isNaN_mul_unpacked {spec : Format} {u v : UnpackedFloat} (number : u.isNaN = false)
    (ordinary : isOrdinary v = true) : (UnpackedFloat.mul spec u v).isNaN = false := by
  cases v with
  | finite =>
    cases u with
    | notANumber => cases number
    | infinity => rfl
    | zero => rfl
    | finite => exact isNaN_roundWithAccuracy ..
  | _ => cases ordinary

theorem isNaN_div_unpacked {spec : Format} {u v : UnpackedFloat} (number : u.isNaN = false)
    (ordinary : isOrdinary v = true) : (UnpackedFloat.div spec u v).isNaN = false := by
  cases v with
  | finite =>
    cases u with
    | notANumber => cases number
    | infinity => rfl
    | zero => rfl
    | finite => exact isNaN_roundWithAccuracy ..
  | _ => cases ordinary

theorem isNaN_ofScientific_unpacked (spec : Format) (mantissa : Nat) (exponent : Int) :
    (UnpackedFloat.ofScientific spec mantissa exponent).isNaN = false := by
  unfold UnpackedFloat.ofScientific
  split
  case isTrue => rfl
  case isFalse =>
    split
    case isTrue => rfl
    case isFalse =>
      split
      case isTrue => rfl
      case isFalse =>
        split
        case isTrue => exact isNaN_mul_unpacked rfl rfl
        case isFalse => exact isNaN_div_unpacked rfl rfl

theorem isNaN_ofNat_unpacked (spec : Format) (n : Nat) :
    (UnpackedFloat.ofNat spec n).isNaN = false :=
  isNaN_normalize ..

theorem isNaN_neg_unpacked {u : UnpackedFloat} (number : u.isNaN = false) :
    u.neg.isNaN = false := by
  cases u with
  | notANumber => cases number
  | infinity => rfl
  | zero => rfl
  | finite => rfl

theorem isNaN_add_unpacked {spec : Format} {u v : UnpackedFloat} (finite : u.isFinite = true)
    (number : v.isNaN = false) : (UnpackedFloat.add spec u v).isNaN = false := by
  cases u with
  | notANumber => cases finite
  | infinity => cases finite
  | zero =>
    cases v with
    | notANumber => cases number
    | infinity => rfl
    | zero =>
      simp only [UnpackedFloat.add]
      split <;> rfl
    | finite => rfl
  | finite =>
    cases v with
    | notANumber => cases number
    | infinity => rfl
    | zero => rfl
    | finite => exact isNaN_normalize ..

theorem sub_eq_add_neg_unpacked (spec : Format) (u v : UnpackedFloat) :
    UnpackedFloat.sub spec u v = UnpackedFloat.add spec u v.neg := by
  cases u with
  | notANumber => cases v <;> rfl
  | infinity => cases v <;> rfl
  | zero => cases v <;> rfl
  | finite =>
    cases v with
    | notANumber => rfl
    | infinity => rfl
    | zero => rfl
    | finite sign =>
      cases sign <;>
        simp [UnpackedFloat.sub, UnpackedFloat.add, UnpackedFloat.neg, Sign.apply,
          Int.sub_eq_add_neg]

theorem isNaN_mul {x y : Float} (number : x.isNaN = false)
    (ordinary : isOrdinary y.toModel.unpack = true) : (x * y).isNaN = false :=
  isNaN_pack (isNaN_mul_unpacked number ordinary)

theorem isNaN_div {x y : Float} (number : x.isNaN = false)
    (ordinary : isOrdinary y.toModel.unpack = true) : (x / y).isNaN = false :=
  isNaN_pack (isNaN_div_unpacked number ordinary)

theorem isNaN_neg {x : Float} (number : x.isNaN = false) : (-x).isNaN = false :=
  isNaN_pack (isNaN_neg_unpacked number)

theorem isNaN_add {x y : Float} (finite : x.isFinite = true) (number : y.isNaN = false) :
    (x + y).isNaN = false :=
  isNaN_pack (isNaN_add_unpacked finite number)

theorem isNaN_sub {x y : Float} (finite : x.isFinite = true) (number : y.isNaN = false) :
    (x - y).isNaN = false := by
  apply isNaN_pack
  rw [sub_eq_add_neg_unpacked]
  exact isNaN_add_unpacked finite (isNaN_neg_unpacked number)

theorem ordinary_two : isOrdinary ((2 : Nat) : Float).toModel.unpack = true := by decide +kernel

theorem isNaN_half {x : Float} (number : x.isNaN = false) : (Scalar.half x).isNaN = false :=
  isNaN_div number ordinary_two

theorem isNaN_of_isFinite {x : Float} (finite : x.isFinite = true) : x.isNaN = false := by
  have unpacked : x.toModel.unpack.isFinite = true := finite
  show x.toModel.unpack.isNaN = false
  cases form : x.toModel.unpack with
  | notANumber =>
    rw [form] at unpacked
    cases unpacked
  | infinity => rfl
  | zero => rfl
  | finite => rfl

theorem ordinary_powersOfTen :
    ∀ e : Fin 23, isOrdinary Float.exactlyRepresentablePowersOfTen[e].toModel.unpack = true := by
  decide +kernel

theorem isNaN_ofScientific (mantissa : Nat) (down : Bool) (exponent : Nat) :
    (Float.ofScientific mantissa down exponent).isNaN = false := by
  unfold Float.ofScientific
  split
  case isTrue small =>
    have whole : mantissa.toUInt64.toFloat.isNaN = false := isNaN_pack (isNaN_ofNat_unpacked ..)
    have power := ordinary_powersOfTen ⟨exponent, by omega⟩
    split
    case isTrue => exact isNaN_div whole power
    case isFalse => exact isNaN_mul whole power
  case isFalse => exact isNaN_pack (isNaN_ofScientific_unpacked ..)

theorem isNaN_ofNumeral (n : Text.Numeral) : (Scalar.ofNumeral n : Float).isNaN = false := by
  unfold Scalar.ofNumeral
  split
  case isTrue => exact isNaN_neg (isNaN_ofScientific ..)
  case isFalse => exact isNaN_ofScientific ..

end DetectorGeometry.Double
