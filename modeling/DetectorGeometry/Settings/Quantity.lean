import DetectorGeometry.Scalar.Basic

/-!
Quantities: a decimal numeral, optionally followed at once by a unit. Lengths are kept in
millimetres, angles in radians and magnetic fields in kilotesla.
-/
namespace DetectorGeometry

inductive ValueFault where
  | notNumber (text : String)
  | unknownUnit (symbol : String)
  | notUnsigned (text : String)
  | openQuote
  | wrongCount (expected found : Nat)
deriving DecidableEq

def ValueFault.message : ValueFault → String
  | notNumber text => s!"'{text}' is not a number"
  | unknownUnit symbol => s!"unknown unit '{symbol}'"
  | notUnsigned text => s!"'{text}' is not an unsigned integer"
  | openQuote => "unterminated quote"
  | wrongCount expected found => s!"expected {expected} element(s) but found {found}"

inductive MeasureUnit where
  | nanometre | micrometre | millimetre | centimetre | metre
  | radian | milliradian | degree
  | tesla | millitesla
deriving DecidableEq

namespace MeasureUnit

def symbol : MeasureUnit → String
  | nanometre => "nm"
  | micrometre => "um"
  | millimetre => "mm"
  | centimetre => "cm"
  | metre => "m"
  | radian => "rad"
  | milliradian => "mrad"
  | degree => "deg"
  | tesla => "T"
  | millitesla => "mT"

def all : List MeasureUnit :=
  [nanometre, micrometre, millimetre, centimetre, metre, radian, milliradian, degree, tesla,
   millitesla]

def ofSymbol? (s : String) : Option MeasureUnit := all.find? (·.symbol == s)

theorem ofSymbol?_symbol (u : MeasureUnit) : ofSymbol? u.symbol = some u := by
  cases u <;> decide

/-- What one of the unit is in the units that values are kept in. -/
def factor {α : Type} [Scalar α] : MeasureUnit → α
  | nanometre => Scalar.decimal 1 (-6)
  | micrometre => Scalar.decimal 1 (-3)
  | millimetre => 1
  | centimetre => Scalar.decimal 10 0
  | metre => Scalar.decimal 1 3
  | radian => 1
  | milliradian => Scalar.decimal 1 (-3)
  | degree => Scalar.pi / Scalar.decimal 180 0
  | tesla => Scalar.decimal 1 (-3)
  | millitesla => Scalar.decimal 1 (-3) * Scalar.decimal 1 (-3)

end MeasureUnit

namespace Quantity

/-- Whether a letter with `rest` behind it announces a power of ten. -/
def marksPower (c : Char) (rest : List Char) : Bool :=
  (c == 'e' || c == 'E') &&
    match rest with
    | [] => false
    | next :: _ => next.isDigit || next == '-' || next == '+'

/-- Splits at the first letter that announces no power of ten; `atStart` says that none can be
announced. -/
def splitUnit (atStart : Bool) : List Char → List Char × List Char
  | [] => ([], [])
  | c :: rest =>
    if c.isAlpha && (atStart || !marksPower c rest) then ([], c :: rest)
    else
      let (number, unit) := splitUnit false rest
      (c :: number, unit)

theorem splitUnit_append (atStart : Bool) (cs : List Char) :
    (splitUnit atStart cs).1 ++ (splitUnit atStart cs).2 = cs := by
  induction cs generalizing atStart with
  | nil => rfl
  | cons c rest ih =>
    simp only [splitUnit]
    split
    · rfl
    · simp [ih]

variable {α : Type} [Scalar α]

/-- The value of a quantity. A bad number is reported before an unknown unit. -/
def read (text : String) : Except ValueFault α :=
  let (number, unit) := splitUnit true text.toList
  match Text.Numeral.read? number with
  | none => .error (.notNumber (String.ofList number))
  | some numeral =>
    if unit.isEmpty then .ok (Scalar.ofNumeral numeral)
    else
      match MeasureUnit.ofSymbol? (String.ofList unit) with
      | none => .error (.unknownUnit (String.ofList unit))
      | some u => .ok (Scalar.ofNumeral numeral * u.factor)

end Quantity

end DetectorGeometry
