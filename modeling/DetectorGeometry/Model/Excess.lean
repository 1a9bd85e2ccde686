import DetectorGeometry.Settings.Section

namespace DetectorGeometry

/-- How far an area reaches beyond the pixel grid: `top` and `bottom` along `y`, `right` and `left`
along `x`. -/
structure Excess (α : Type) where
  top : α
  right : α
  bottom : α
  left : α
deriving DecidableEq

namespace Excess

variable {α : Type} [Scalar α]

/-- The excess under `key`, which a key of its own can replace on every edge. -/
def ofSection (s : Section) (key : String) : Except SettingsError (Excess α) := do
  let common ← s.getD .number key 0
  return {
    top := ← s.getD .number (key ++ "_top") common
    right := ← s.getD .number (key ++ "_right") common
    bottom := ← s.getD .number (key ++ "_bottom") common
    left := ← s.getD .number (key ++ "_left") common }

def width (e : Excess α) : α := e.right + e.left

def height (e : Excess α) : α := e.top + e.bottom

def centerOffset (e : Excess α) : Vec2 α :=
  ⟨Scalar.half (e.right - e.left), Scalar.half (e.top - e.bottom)⟩

end Excess

end DetectorGeometry
