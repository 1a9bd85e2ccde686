import DetectorGeometry.Text.Numeral

/-!
The numbers that coordinates and sizes are made of. Everything geometric is written over `Scalar`,
so that it runs on doubles and can be studied over an exact ordered field. No law is assumed here:
the operations are used in a fixed order, which is what makes results on doubles reproducible to the
last bit.
-/
namespace DetectorGeometry

class Scalar (α : Type) extends
    Zero α, One α, NatCast α, Add α, Sub α, Neg α, Mul α, Div α, LE α, LT α where
  decideLE : DecidableLE α
  decideLT : DecidableLT α
  /-- The number nearest to `mantissa * 10 ^ exponent`. -/
  decimal (mantissa : Nat) (exponent : Int) : α
  largest : α
  pi : α
  isFinite : α → Bool
  sqrt : α → α

instance Scalar.instDecidableLE {α : Type} [Scalar α] : DecidableLE α := Scalar.decideLE
instance Scalar.instDecidableLT {α : Type} [Scalar α] : DecidableLT α := Scalar.decideLT

/-- Sine and cosine of an angle in radians. -/
class Trigonometry (α : Type) where
  sin : α → α
  cos : α → α

namespace Scalar

variable {α : Type} [Scalar α]

def half (x : α) : α := x / ((2 : Nat) : α)

def double (x : α) : α := x * ((2 : Nat) : α)

def ofNumeral (n : Text.Numeral) : α :=
  if n.negative then -decimal n.mantissa n.exponent else decimal n.mantissa n.exponent

/-- The lesser of two numbers. The first one is taken if they are equal, the second if they do not
compare. -/
def lesser (a b : α) : α := if a ≤ b then a else b

def greater (a b : α) : α := if b ≤ a then a else b

/-- Whether two numbers compare as equal. Zeros of either sign do, and what does not compare is not
even equal to itself. -/
def equal (a b : α) : Bool := decide (a ≤ b) && decide (b ≤ a)

end Scalar

end DetectorGeometry
