/-!
Decimal numerals: an optional sign, digits with at most one point and at least one digit, and an
optional power of ten. Nothing else reads as a numeral, neither words such as `nan` nor digits of
other scripts.
-/
namespace DetectorGeometry.Text

/-- What a decimal numeral stands for: `mantissa * 10 ^ exponent`, negated if `negative`. -/
structure Numeral where
  negative : Bool
  mantissa : Nat
  exponent : Int
deriving DecidableEq

namespace Numeral

def digitsValue (digits : List Char) : Nat :=
  digits.foldl (fun n c => 10 * n + (c.toNat - '0'.toNat)) 0

def splitSign : List Char → Bool × List Char
  | '-' :: rest => (true, rest)
  | '+' :: rest => (false, rest)
  | cs => (false, cs)

def splitDigits (cs : List Char) : List Char × List Char :=
  (cs.takeWhile Char.isDigit, cs.dropWhile Char.isDigit)

def splitFraction : List Char → List Char × List Char
  | '.' :: rest => splitDigits rest
  | cs => ([], cs)

/-- The power of ten that the end of a numeral gives; an empty end gives the power zero. -/
def readExponent? : List Char → Option Int
  | [] => some 0
  | mark :: rest =>
    if mark = 'e' ∨ mark = 'E' then
      let (negative, digits) := splitSign rest
      if digits.isEmpty || !digits.all Char.isDigit then none
      else some (if negative then -(digitsValue digits : Int) else digitsValue digits)
    else none

def read? (cs : List Char) : Option Numeral :=
  let (negative, unsigned) := splitSign cs
  let (whole, tail) := splitDigits unsigned
  let (fraction, tail) := splitFraction tail
  if whole.isEmpty && fraction.isEmpty then none
  else
    (readExponent? tail).map fun power =>
      ⟨negative, digitsValue (whole ++ fraction), power - fraction.length⟩

end Numeral

def readNat? (cs : List Char) : Option Nat :=
  let digits := match cs with
    | '+' :: rest => rest
    | _ => cs
  if digits.isEmpty || !digits.all Char.isDigit then none else some (Numeral.digitsValue digits)

end DetectorGeometry.Text
