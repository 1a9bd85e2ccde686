import DetectorGeometry.Setup.Basic

/-!
Which detector gets which model. A detector whose section says more than where it stands gets a
model in which those settings replace parameters; detectors of one type with the same such settings
share that model.
-/
namespace DetectorGeometry

structure Specialization (α : Type) where
  typeName : String
  overrides : Table String
  model : Shared (Model α)

structure Resolution (α : Type) where
  assigned : List (Nat × Shared (Model α))
  made : List (Specialization α)

/-- The keys of a detector section that say where the detector stands and of which type it is. -/
def Section.placementKeys : List String := ["type", "position", "orientation", "orientation_mode"]

/-- The settings of a detector section that change the model, as an anonymous section. -/
def Section.overrides (s : Section) : Section :=
  ⟨"", none, s.settings.filterKeys fun key => !placementKeys.contains key⟩

namespace Resolution

variable {α : Type}

def empty : Resolution α := ⟨[], []⟩

def assign (r : Resolution α) (draft : Nat) (model : Shared (Model α)) : Resolution α :=
  { r with assigned := r.assigned ++ [(draft, model)] }

def find? (r : Resolution α) (typeName : String) (overrides : Table String) :
    Option (Specialization α) :=
  r.made.find? fun s => s.typeName == typeName && decide (s.overrides = overrides)

def model? (r : Resolution α) (draft : Nat) : Option (Shared (Model α)) := r.assigned.lookup draft

variable [Scalar α]

/-- Gives a draft its model. The serial numbers from `firstSerial` on are free for
specializations. -/
def serve (firstSerial : Nat) (typeName : String) (generic : Shared (Model α)) (r : Resolution α)
    (request : Request) : Except Error (Resolution α) :=
  let overrides := request.settings.overrides
  if overrides.isEmpty then .ok (r.assign request.draft generic)
  else
    match r.find? typeName overrides.settings with
    | some earlier => .ok (r.assign request.draft earlier.model)
    | none => do
      let model ← Error.ofSettings (generic.value.specialize overrides)
      let made : Specialization α :=
        ⟨typeName, overrides.settings, ⟨firstSerial + r.made.length, model⟩⟩
      return { r.assign request.draft made.model with made := r.made ++ [made] }

def serveType (models : Catalogue α) (r : Resolution α) (entry : String × List Request) :
    Except Error (Resolution α) :=
  match models.get? entry.1 with
  | none => .error (.geometry (.unknownModel entry.1))
  | some generic => entry.2.foldlM (serve models.size entry.1 generic) r

end Resolution

end DetectorGeometry
