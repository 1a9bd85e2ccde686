import Mathlib.Data.List.Nodup
import DetectorGeometry.Proofs.Catalogue
import DetectorGeometry.Table.Lemmas

/-!
Catalogues that keep an index. A catalogue goes through its models to find a name. A table of places
beside the models gives the same answers as long as the two are in step (`Indexed.Aligned`), which
they are after any insertions, refused ones among them: the models are then the first ones of their
names, and every place in the table is that of a model (`Indexed.keeps_history`).
-/
namespace DetectorGeometry.Catalogue

variable {α : Type}

def keep (c : Catalogue α) (m : Model α) : Catalogue α := (c.insert m).toOption.getD c

theorem position?_append (models : List (Model α)) (m : Model α) (typeName : String) :
    (⟨models ++ [m]⟩ : Catalogue α).position? typeName =
      ((⟨models⟩ : Catalogue α).position? typeName).or
        (if m.typeName = typeName then some models.length else none) := by
  simp only [position?, List.findIdx?_append, List.findIdx?_singleton, beq_iff_eq]
  split <;> simp

structure Indexed (α : Type) where
  models : List (Model α)
  index : Table Nat

namespace Indexed

def empty : Indexed α := ⟨[], .empty⟩

def contains (c : Indexed α) (typeName : String) : Bool := c.index.contains typeName

/-- The model at the place of a name. Nothing checks the place: a name whose place lies behind the
last model is known, but leads to no model. -/
def get? (c : Indexed α) (typeName : String) : Option (Option (Shared (Model α))) :=
  (c.index.get? typeName).map fun place => c.models[place]?.map (⟨place, ·⟩)

def insert (c : Indexed α) (m : Model α) : Indexed α × Except GeometryError Unit :=
  if c.contains m.typeName then (c, .error (.modelExists m.typeName))
  else (⟨c.models ++ [m], c.index.insert m.typeName c.models.length⟩, .ok ())

def insertAll (c : Indexed α) :
    List (Model α) → Indexed α × List (Model α × Except GeometryError Unit)
  | [] => (c, [])
  | m :: rest =>
    let (next, answer) := c.insert m
    let (last, answers) := next.insertAll rest
    (last, (m, answer) :: answers)

def catalogue (c : Indexed α) : Catalogue α := ⟨c.models⟩

/-- The table has the place of the first model of every name, and no other names. -/
def Aligned (c : Indexed α) : Prop :=
  ∀ typeName, c.index.get? typeName = c.catalogue.position? typeName

variable {c : Indexed α}

theorem Aligned.contains_eq (aligned : c.Aligned) (typeName : String) :
    c.contains typeName = c.catalogue.contains typeName :=
  congrArg Option.isSome (aligned typeName)

theorem Aligned.place_lt (aligned : c.Aligned) {typeName : String} {place : Nat}
    (known : c.index.get? typeName = some place) : place < c.models.length := by
  rw [aligned typeName] at known
  exact (List.findIdx?_eq_some_iff_getElem.mp known).1

theorem Aligned.get?_eq (aligned : c.Aligned) (typeName : String) :
    c.get? typeName = (c.catalogue.get? typeName).map some := by
  rw [get?, Catalogue.get?]
  cases known : c.index.get? typeName with
  | none =>
    rw [aligned typeName] at known
    simp [known]
  | some place =>
    have inside := aligned.place_lt known
    have known' : (⟨c.models⟩ : Catalogue α).position? typeName = some place :=
      (aligned typeName).symm.trans known
    simp [known', catalogue, inside]

theorem insert_of_known {m : Model α} (known : c.contains m.typeName = true) :
    c.insert m = (c, .error (.modelExists m.typeName)) := by
  rw [insert, if_pos known]

theorem insert_of_unknown {m : Model α} (unknown : c.contains m.typeName = false) :
    c.insert m = (⟨c.models ++ [m], c.index.insert m.typeName c.models.length⟩, .ok ()) := by
  rw [insert, unknown]
  rfl

/-- What an indexed catalogue has kept of the models that were to be inserted. -/
structure Records (c : Indexed α) (history : List (Model α)) : Prop where
  aligned : c.Aligned
  distinct : (c.models.map (·.typeName)).Nodup
  first : ∀ typeName, c.models.find? (·.typeName == typeName) =
    history.find? (·.typeName == typeName)
  follows : c.catalogue = history.foldl keep .empty

theorem records_empty : (empty : Indexed α).Records [] :=
  ⟨fun _ => rfl, .nil, fun _ => rfl, rfl⟩

theorem Records.contains_iff {history : List (Model α)} (records : c.Records history)
    {typeName : String} :
    c.contains typeName = true ↔ ∃ m ∈ history, m.typeName = typeName := by
  have first := congrArg Option.isSome (records.first typeName)
  rw [List.isSome_find?, List.isSome_find?] at first
  rw [records.aligned.contains_eq, contains_eq_any, catalogue, first]
  simp

theorem keep_catalogue (aligned : c.Aligned) (m : Model α) :
    (c.insert m).1.catalogue = c.catalogue.keep m := by
  have same := aligned.contains_eq m.typeName
  cases known : c.contains m.typeName with
  | true =>
    rw [insert_of_known known, keep, Catalogue.insert, ← same, known]
    rfl
  | false =>
    rw [insert_of_unknown known, keep, Catalogue.insert, ← same, known]
    rfl

theorem Aligned.insert (aligned : c.Aligned) (m : Model α) : (c.insert m).1.Aligned := by
  cases known : c.contains m.typeName with
  | true => rwa [insert_of_known known]
  | false =>
    rw [insert_of_unknown known]
    intro typeName
    have before : c.index.get? typeName = (⟨c.models⟩ : Catalogue α).position? typeName :=
      aligned typeName
    rw [Table.get?_insert, catalogue, position?_append, ← before]
    by_cases same : m.typeName = typeName
    · subst same
      have unknown : c.index.get? m.typeName = none := Option.not_isSome_iff_eq_none.mp (by
        simpa [contains, Table.contains] using known)
      simp [unknown]
    · simp [same]

theorem Records.insert {history : List (Model α)} (records : c.Records history) (m : Model α) :
    (c.insert m).1.Records (history ++ [m]) := by
  refine ⟨records.aligned.insert m, ?_, ?_, ?_⟩
  · cases known : c.contains m.typeName with
    | true =>
      rw [insert_of_known known]
      exact records.distinct
    | false =>
      have unknown : ∀ n ∈ c.models, n.typeName ≠ m.typeName := by
        rw [records.aligned.contains_eq, contains_eq_any] at known
        simpa [catalogue] using known
      rw [insert_of_unknown known, List.map_append, List.nodup_append]
      exact ⟨records.distinct, List.nodup_singleton _, by simpa using unknown⟩
  · intro typeName
    rw [List.find?_append, ← records.first]
    cases known : c.contains m.typeName with
    | true =>
      rw [insert_of_known known]
      cases found : c.models.find? (·.typeName == typeName) with
      | some first => rfl
      | none =>
        have different : m.typeName ≠ typeName := by
          rintro rfl
          obtain ⟨n, listed, same⟩ := records.contains_iff.mp known
          rw [records.first] at found
          exact List.find?_eq_none.mp found n listed (beq_iff_eq.mpr same)
        simp [different]
    | false =>
      rw [insert_of_unknown known]
      exact List.find?_append
  · rw [keep_catalogue records.aligned, records.follows, List.foldl_append]
    rfl

theorem Records.insertAll {before : List (Model α)} (records : c.Records before)
    (rest : List (Model α)) : (c.insertAll rest).1.Records (before ++ rest) := by
  induction rest generalizing c before with
  | nil => rwa [List.append_nil]
  | cons m rest ih =>
    rw [List.append_cons]
    exact ih (records.insert m)

def accepted (answers : List (Model α × Except GeometryError Unit)) : List (Model α) :=
  (answers.filter (·.2.isOk)).map (·.1)

theorem models_insertAll (c : Indexed α) (history : List (Model α)) :
    (c.insertAll history).1.models = c.models ++ accepted (c.insertAll history).2 := by
  induction history generalizing c with
  | nil => exact (List.append_nil _).symm
  | cons m rest ih =>
    have later := ih (c.insert m).1
    cases known : c.contains m.typeName with
    | true =>
      simp only [Indexed.insertAll, insert_of_known known] at later ⊢
      rw [later]
      rfl
    | false =>
      simp only [Indexed.insertAll, insert_of_unknown known] at later ⊢
      rw [later, List.append_assoc]
      rfl

def after (history : List (Model α)) : Indexed α := (empty.insertAll history).1

def answers (history : List (Model α)) : List (Model α × Except GeometryError Unit) :=
  (empty.insertAll history).2

theorem records_after (history : List (Model α)) : (after history).Records history :=
  records_empty.insertAll history

/-- A catalogue with an index lists the models whose names had not come before, finds the first
model of every name, and answers like one without an index. -/
theorem keeps_history (history : List (Model α)) :
    ((after history).models = accepted (answers history) ∧
      ((after history).models.map (·.typeName)).Nodup) ∧
    (∀ m, ((∃ e, ((after history).insert m).2 = .error e) ↔
        ∃ n ∈ history, n.typeName = m.typeName) ∧
      ∀ e, ((after history).insert m).2 = .error e →
        e = .modelExists m.typeName ∧ ((after history).insert m).1 = after history) ∧
    (∀ typeName, ((after history).contains typeName = true ↔
        ∃ found, (after history).get? typeName = some (some found)) ∧
      ∀ found, (after history).get? typeName = some (some found) →
        history.find? (·.typeName == typeName) = some found.value ∧
        found.value.typeName = typeName) ∧
    (∀ typeName place, (after history).index.get? typeName = some place →
      place < (after history).models.length) ∧
    (after history).catalogue = history.foldl keep .empty ∧
    ∀ typeName, (after history).contains typeName = (after history).catalogue.contains typeName ∧
      (after history).get? typeName = ((after history).catalogue.get? typeName).map some := by
  have records := records_after history
  have aligned := records.aligned
  refine ⟨⟨models_insertAll empty history, records.distinct⟩, fun m => ?_, fun typeName => ?_,
    fun typeName place known => aligned.place_lt known, records.follows,
    fun typeName => ⟨aligned.contains_eq typeName, aligned.get?_eq typeName⟩⟩
  · rw [← records.contains_iff]
    cases known : (after history).contains m.typeName with
    | true =>
      rw [insert_of_known known]
      refine ⟨⟨fun _ => rfl, fun _ => ⟨_, rfl⟩⟩, fun e refused => ?_⟩
      cases refused
      exact ⟨rfl, rfl⟩
    | false =>
      rw [insert_of_unknown known]
      exact ⟨⟨fun ⟨_, refused⟩ => (nomatch refused), nofun⟩, fun _ refused => nomatch refused⟩
  · rw [aligned.contains_eq, aligned.get?_eq, ← Catalogue.isSome_get?, Option.isSome_iff_exists]
    constructor
    · simp
    · intro found known
      have known' : (after history).catalogue.get? typeName = some found := by simpa using known
      have value := Catalogue.get?_value (c := (after history).catalogue) typeName
      rw [known', Option.map_some, catalogue, records.first] at value
      exact ⟨value.symm, typeName_of_get? known'⟩

end Indexed

end DetectorGeometry.Catalogue

namespace DetectorGeometry.Sample

open Catalogue.Indexed

def sheet (typeName : String) (thickness : Nat) : Model Nat where
  typeName := typeName
  assembly := .monolithic
  pixelCount := ⟨1, 1⟩
  pixelSize := ⟨1, 1⟩
  sensorThickness := thickness
  sensorExcess := ⟨0, 0, 0, 0⟩
  configuredChipThickness := 0
  declaredLayers := []
  document := ⟨[]⟩

def sheets : List (Model Nat) := [sheet "thin" 1, sheet "thin" 2, sheet "thick" 9]

/-- The second thin sheet is refused, and the thick one goes to the place that stays free. -/
theorem sheets_kept :
    (((after [sheet "thin" 1]).insert (sheet "thin" 2)).2 = .error (.modelExists "thin") ∧
      ((after [sheet "thin" 1]).insert (sheet "thin" 2)).1 = after [sheet "thin" 1]) ∧
    (∃ found, (after sheets).get? "thick" = some (some found) ∧
      sheets.find? (·.typeName == "thick") = some found.value ∧
      found.value.typeName = "thick") ∧
    ((after sheets).index.get? "thick" = some 1 ∧ 1 < (after sheets).models.length) := by
  obtain ⟨-, insertions, -⟩ := keeps_history [sheet "thin" 1]
  obtain ⟨e, refused⟩ := (insertions (sheet "thin" 2)).1.mpr ⟨_, List.mem_singleton_self _, rfl⟩
  obtain ⟨rfl, unchanged⟩ := (insertions (sheet "thin" 2)).2 e refused
  obtain ⟨-, -, names, places, -⟩ := keeps_history sheets
  obtain ⟨found, known⟩ := (names "thick").1.mp (by decide +kernel)
  have place : (after sheets).index.get? "thick" = some 1 := by decide +kernel
  exact ⟨⟨refused, unchanged⟩, ⟨found, known, (names "thick").2 found known⟩,
    place, places "thick" 1 place⟩

end DetectorGeometry.Sample
