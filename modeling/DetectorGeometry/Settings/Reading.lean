import DetectorGeometry.Settings.Quantity
import DetectorGeometry.Space.Vector
import DetectorGeometry.Text.Blank
import DetectorGeometry.Text.Numeral

/-!
Values of settings, read from their raw text. Blanks and commas separate the elements of a value,
and double quotes, which are dropped, keep them from doing so.
-/
namespace DetectorGeometry

abbrev Reading (β : Type) := String → Except ValueFault β

namespace Reading

def isSeparator (c : Char) : Bool := Text.isBlank c || c == ','

def keepElement (element : List Char) (others : List (List Char)) : List (List Char) :=
  if element.isEmpty then others else element :: others

/-- The rest of the element that a text starts in, and the elements behind it; `none` if a quote
stays open. `quoted` says whether the text starts inside quotes. -/
def pieces (quoted : Bool) : List Char → Option (List Char × List (List Char))
  | [] => if quoted then none else some ([], [])
  | c :: rest =>
    if c = '"' then pieces (!quoted) rest
    else if !quoted && isSeparator c then
      (pieces false rest).map fun (element, others) => ([], keepElement element others)
    else (pieces quoted rest).map fun (element, others) => (c :: element, others)

def elements? (cs : List Char) : Option (List (List Char)) :=
  (pieces false cs).map fun (element, others) => keepElement element others

def strings : Reading (List String) := fun text =>
  match elements? text.toList with
  | none => .error .openQuote
  | some elements => .ok (elements.map String.ofList)

def unquote : List Char → List Char
  | '"' :: rest => if rest.getLast? = some '"' then rest.dropLast else '"' :: rest
  | cs => cs

def string : Reading String := fun text => .ok (String.ofList (unquote (Text.trim text.toList)))

def unsignedElement (element : String) : Except ValueFault UInt32 :=
  match Text.readNat? element.toList with
  | some n => if n < UInt32.size then .ok (UInt32.ofNat n) else .error (.notUnsigned element)
  | none => .error (.notUnsigned element)

def unsigned : Reading UInt32 := fun text => do
  match ← strings text with
  | [n] => unsignedElement n
  | elements => .error (.wrongCount 1 elements.length)

def counts : Reading (Vec2 UInt32) := fun text => do
  match ← strings text with
  | [x, y] => return ⟨← unsignedElement x, ← unsignedElement y⟩
  | elements => .error (.wrongCount 2 elements.length)

variable {α : Type} [Scalar α]

def number : Reading α := fun text => do
  match ← strings text with
  | [x] => Quantity.read x
  | elements => .error (.wrongCount 1 elements.length)

def pair : Reading (Vec2 α) := fun text => do
  match ← strings text with
  | [x, y] => return ⟨← Quantity.read x, ← Quantity.read y⟩
  | elements => .error (.wrongCount 2 elements.length)

def triple : Reading (Vec3 α) := fun text => do
  match ← strings text with
  | [x, y, z] => return ⟨← Quantity.read x, ← Quantity.read y, ← Quantity.read z⟩
  | elements => .error (.wrongCount 3 elements.length)

end Reading

end DetectorGeometry
