namespace DetectorGeometry

/-- An object together with the number that identifies it among its kind. -/
structure Shared (β : Type) where
  serial : Nat
  value : β

def Shared.same {β : Type} (a b : Shared β) : Bool := a.serial == b.serial

end DetectorGeometry
