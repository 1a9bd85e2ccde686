import DetectorGeometry.Geometry.Catalogue
import Mathlib.Data.List.Basic

namespace DetectorGeometry.Catalogue

variable {α : Type} {c : Catalogue α}

theorem contains_eq_any (typeName : String) :
    c.contains typeName = c.models.any (·.typeName == typeName) := by
  simp [contains, position?, List.findIdx?_isSome]

theorem insert_eq_ok {m : Model α} {c' : Catalogue α} :
    c.insert m = .ok c' ↔ c.contains m.typeName = false ∧ c' = ⟨c.models ++ [m]⟩ := by
  simp only [insert]
  split
  case isTrue known => simp [known]
  case isFalse unknown =>
    constructor
    · intro h
      cases h
      exact ⟨by simpa using unknown, rfl⟩
    · rintro ⟨_, rfl⟩
      rfl

theorem get?_eq_some {typeName : String} {found : Shared (Model α)} :
    c.get? typeName = some found ↔
      c.position? typeName = some found.serial ∧ c.models[found.serial]? = some found.value := by
  simp only [get?, Option.bind_eq_bind, Option.bind_eq_some_iff]
  constructor
  · rintro ⟨position, here, model, there, equal⟩
    cases equal
    exact ⟨here, there⟩
  · rintro ⟨here, there⟩
    exact ⟨found.serial, here, found.value, there, rfl⟩

theorem get?_value (typeName : String) :
    (c.get? typeName).map (·.value) = c.models.find? (·.typeName == typeName) := by
  simp only [get?, position?]
  cases position : c.models.findIdx? (·.typeName == typeName) with
  | none =>
    have absent : c.models.find? (·.typeName == typeName) = none := by
      simpa [List.findIdx?_eq_none_iff] using position
    rw [absent]
    rfl
  | some i =>
    obtain ⟨inside, here, before⟩ := List.findIdx?_eq_some_iff_getElem.mp position
    have found : c.models.find? (·.typeName == typeName) = some c.models[i] :=
      List.find?_eq_some_iff_getElem.mpr ⟨here, i, inside, rfl, fun j below => by
        simpa using before j below⟩
    simp [found, inside]

theorem isSome_get? (typeName : String) : (c.get? typeName).isSome = c.contains typeName := by
  have value := congrArg Option.isSome (c.get?_value typeName)
  rwa [Option.isSome_map, List.isSome_find?, ← contains_eq_any] at value

theorem typeName_of_get? {typeName : String} {found : Shared (Model α)}
    (known : c.get? typeName = some found) : found.value.typeName = typeName := by
  have value := c.get?_value typeName
  rw [known] at value
  simpa using List.find?_some value.symm

theorem serial_lt_size {typeName : String} {found : Shared (Model α)}
    (known : c.get? typeName = some found) : found.serial < c.size :=
  (List.getElem?_eq_some_iff.mp (get?_eq_some.mp known).2).1

theorem typeName_eq_of_serial_eq {typeName other : String} {found found' : Shared (Model α)}
    (known : c.get? typeName = some found) (known' : c.get? other = some found')
    (same : found.serial = found'.serial) : typeName = other := by
  have here := (get?_eq_some.mp known).2
  have there := (get?_eq_some.mp known').2
  rw [same, there] at here
  rw [← typeName_of_get? known, ← typeName_of_get? known', Option.some.inj here]

end DetectorGeometry.Catalogue
