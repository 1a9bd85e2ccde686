import DetectorGeometry.Geometry.Error
import DetectorGeometry.Model.Basic
import DetectorGeometry.Shared

/-!
Catalogues of models: the generic models of a geometry in the order of their registration, one per
type name. The position of a model in the catalogue is its serial number.
-/
namespace DetectorGeometry

structure Catalogue (α : Type) where
  models : List (Model α)

namespace Catalogue

variable {α : Type}

def empty : Catalogue α := ⟨[]⟩

def size (c : Catalogue α) : Nat := c.models.length

def position? (c : Catalogue α) (typeName : String) : Option Nat :=
  c.models.findIdx? (·.typeName == typeName)

def contains (c : Catalogue α) (typeName : String) : Bool := (c.position? typeName).isSome

def get? (c : Catalogue α) (typeName : String) : Option (Shared (Model α)) := do
  let position ← c.position? typeName
  let model ← c.models[position]?
  return ⟨position, model⟩

def insert (c : Catalogue α) (model : Model α) : Except GeometryError (Catalogue α) :=
  if c.contains model.typeName then .error (.modelExists model.typeName)
  else .ok ⟨c.models ++ [model]⟩

end Catalogue

end DetectorGeometry
