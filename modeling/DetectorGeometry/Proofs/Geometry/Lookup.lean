import DetectorGeometry.Geometry.Basic
import DetectorGeometry.Table.Lemmas
import Mathlib.Data.List.Induction
import Mathlib.Data.List.Nodup

namespace DetectorGeometry.Geometry

variable {α : Type}

theorem positionsOf_append_singleton (front : List (Detector α)) (last : Detector α) :
    positionsOf (front ++ [last]) = (positionsOf front).insert last.name front.length := by
  simp [positionsOf, List.zipIdx_append]

theorem contains_positionsOf (detectors : List (Detector α)) (name : String) :
    (positionsOf detectors).contains name = true ↔ name ∈ detectors.map (·.name) := by
  induction detectors using List.reverseRecOn with
  | nil => exact iff_of_false Bool.false_ne_true List.not_mem_nil
  | append_singleton front last ih =>
    rw [Table.contains_eq] at ih ⊢
    rw [positionsOf_append_singleton, Table.get?_insert, List.map_append, List.mem_append, ← ih]
    by_cases same : last.name = name
    · simp [same]
    · simp [same, Ne.symm same]

theorem position_holds {detectors : List (Detector α)} {name : String} {position : Nat}
    (found : (positionsOf detectors).get? name = some position) :
    ∃ d, detectors[position]? = some d ∧ d.name = name := by
  induction detectors using List.reverseRecOn with
  | nil => cases found
  | append_singleton front last ih =>
    rw [positionsOf_append_singleton, Table.get?_insert] at found
    split at found
    case isTrue same =>
      cases found
      exact ⟨last, by simp, same⟩
    case isFalse =>
      obtain ⟨d, known, name⟩ := ih found
      have inside := (List.getElem?_eq_some_iff.mp known).1
      exact ⟨d, by rw [List.getElem?_append_left inside, known], name⟩

variable {g : Geometry α}

theorem detector_eq_ok {name : String} {d : Detector α} :
    g.detector name = .ok d ↔ g.findDetector? name = some d := by
  simp only [detector]
  cases g.findDetector? name <;> simp

theorem hasDetector_iff (indexed : g.positions = positionsOf g.detectors) (name : String) :
    g.hasDetector name = true ↔ name ∈ g.detectors.map (·.name) := by
  rw [hasDetector, indexed, contains_positionsOf]

theorem detector_of_mem (indexed : g.positions = positionsOf g.detectors)
    (distinct : (g.detectors.map (·.name)).Nodup) {d : Detector α} (member : d ∈ g.detectors) :
    g.detector d.name = .ok d := by
  have known := (hasDetector_iff indexed d.name).mpr (List.mem_map_of_mem member)
  obtain ⟨position, found⟩ := Option.isSome_iff_exists.mp known
  have found' := found
  rw [indexed] at found'
  obtain ⟨other, place, sameName⟩ := position_holds found'
  have same := List.inj_on_of_nodup_map distinct (List.mem_of_getElem? place) member sameName
  rw [detector_eq_ok, findDetector?, found]
  exact same ▸ place

theorem detector_of_notMem (indexed : g.positions = positionsOf g.detectors) {name : String}
    (absent : name ∉ g.detectors.map (·.name)) :
    g.detector name = .error (.unknownDetector name) := by
  have unknown : g.positions.get? name = none := by
    rw [← hasDetector_iff indexed, hasDetector, Table.contains_eq] at absent
    simpa using absent
  simp [detector, findDetector?, unknown]

theorem detectorsOfType_eq (typeName : String) :
    g.detectorsOfType typeName =
      let found := g.detectors.filter (·.typeName == typeName)
      if found = [] then .error (.unknownModel typeName) else .ok found := by
  simp only [detectorsOfType]
  split
  case h_1 none => rw [if_pos none]
  case h_2 some => rw [if_neg some]

end DetectorGeometry.Geometry
