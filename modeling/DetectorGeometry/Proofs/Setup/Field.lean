import DetectorGeometry.Proofs.Setup.Lifecycle

namespace DetectorGeometry

variable {α : Type}

namespace Geometry

def offerAll (g : Geometry α) : List (MagneticField α) →
    Geometry α × List (Except GeometryError Unit)
  | [] => (g, [])
  | field :: rest =>
    let (g, answer) := g.setField field
    let (g, answers) := g.offerAll rest
    (g, answer :: answers)

/-- The geometry has this field, or none, and so do all of its detectors. -/
structure Carries (g : Geometry α) (field? : Option (MagneticField α)) : Prop where
  field : g.field? = field?
  samples : ∀ d ∈ g.detectors, d.sampledField = field?.map (·.value d.position)

def filled (g : Geometry α) (field : MagneticField α) : Geometry α :=
  { g with
    field? := some field
    detectors := g.detectors.map fun d => { d with sampledField := some (field.value d.position) } }

/-- The first field reaches every detector, since no detector has a value before the geometry has a
field. -/
theorem Carries.setField_eq {g : Geometry α} (carries : g.Carries none) (field : MagneticField α) :
    g.setField field = (g.filled field, .ok ()) := by
  have samples : g.detectors.map (·.sample field) = (g.filled field).detectors := by
    apply List.map_congr_left
    intro d member
    have unset : d.sampledField = none := carries.samples d member
    simp only [Detector.sample, Detector.store, unset]
  simp only [setField, carries.field, samples]
  rfl

theorem carries_filled (g : Geometry α) (field : MagneticField α) :
    (g.filled field).Carries (some field) := by
  refine ⟨rfl, fun d member => ?_⟩
  obtain ⟨unset, _, rfl⟩ := List.mem_map.mp member
  rfl

theorem Carries.setField_again {g : Geometry α} {known : MagneticField α}
    (carries : g.Carries (some known)) (field : MagneticField α) :
    g.setField field = (g, .error .fieldAlreadySet) := by
  rw [setField, carries.field]

theorem Carries.offerAll_again {g : Geometry α} {known : MagneticField α}
    (carries : g.Carries (some known)) (fields : List (MagneticField α)) :
    g.offerAll fields = (g, fields.map fun _ => .error .fieldAlreadySet) := by
  induction fields with
  | nil => rfl
  | cons field rest ih => simp only [offerAll, carries.setField_again, ih, List.map_cons]

theorem carries_offerAll {g : Geometry α} (carries : g.Carries none)
    (fields : List (MagneticField α)) :
    (g.offerAll fields).1.Carries fields.head? ∧
      (g.offerAll fields).2 =
        (fields.take 1).map (fun _ => .ok ()) ++
          (fields.drop 1).map fun _ => .error .fieldAlreadySet := by
  cases fields with
  | nil => exact ⟨carries, rfl⟩
  | cons field rest =>
    have isSet := g.carries_filled field
    simp only [offerAll, carries.setField_eq, isSet.offerAll_again rest]
    exact ⟨isSet, rfl⟩

theorem Carries.hasField_iff {g : Geometry α} {field? : Option (MagneticField α)}
    (carries : g.Carries field?) :
    g.hasField = true ↔ ∃ field, field? = some field ∧ field.kind ≠ .none := by
  rw [hasField, fieldKind, carries.field]
  cases field? <;> simp

theorem Carries.hasField_of_mem {g : Geometry α} {field? : Option (MagneticField α)}
    (carries : g.Carries field?) {d : Detector α} (member : d ∈ g.detectors) :
    d.hasField = field?.isSome := by
  rw [Detector.hasField, carries.samples d member, Option.isSome_map]

theorem Carries.fieldKind_eq {g : Geometry α} {field? : Option (MagneticField α)}
    (carries : g.Carries field?) : g.fieldKind = (field?.map (·.kind)).getD .none := by
  rw [fieldKind, carries.field]

theorem Carries.fieldAt_eq [Scalar α] {g : Geometry α} {field? : Option (MagneticField α)}
    (carries : g.Carries field?) (position : Vec3 α) :
    g.fieldAt position = (field?.map (·.value position)).getD .zero := by
  rw [fieldAt, carries.field]
  cases field? <;> rfl

theorem Carries.field_of_mem [Scalar α] {g : Geometry α} {field? : Option (MagneticField α)}
    (carries : g.Carries field?) {d : Detector α} (member : d ∈ g.detectors) :
    d.field = g.fieldAt d.position := by
  rw [Detector.field, carries.samples d member, carries.fieldAt_eq]

end Geometry

namespace Setup

variable [Scalar α] [Trigonometry α]

theorem Reachable.carries_none {s : Setup α} (reachable : s.Reachable) {g : Geometry α}
    (closed : s.closed? = some g) : g.Carries none := by
  obtain ⟨t, _, isOpen, files, closing⟩ := reachable.exists_close closed
  obtain ⟨assembled, _⟩ := (close_eq_ok isOpen).mp closing
  obtain ⟨_, r, detectors, _, _, finished, rfl⟩ := assemble_eq_ok.mp assembled
  refine ⟨rfl, fun d member => ?_⟩
  obtain ⟨⟨draft, number⟩, _, made⟩ := Outcome.mem_of_mapM finished member
  simp only [finishDraft] at made
  split at made
  case h_1 =>
    cases made
    rfl
  case h_2 => cases made

/-- After fields have been offered to a closed geometry, a detector says that there is a field
exactly if one was accepted. The geometry says so unless the accepted field is of the kind `none`,
so that the two agree exactly if the first field was not of this kind. -/
theorem field_flags {calls : List (Call α)} {files : FileSystem} {s : Setup α} {g : Geometry α}
    (closing : (empty.after calls).close files = (s, .ok g)) (fields : List (MagneticField α)) :
    let after := (g.offerAll fields).1
    let answers := (g.offerAll fields).2
    (.ok () ∈ answers ↔ fields ≠ []) ∧
    (∀ d ∈ after.detectors, d.hasField = true ↔ .ok () ∈ answers) ∧
    (after.hasField = true ↔ ∃ field, fields.head? = some field ∧ field.kind ≠ .none) ∧
    (((after.hasField = true ↔ .ok () ∈ answers) ∧
        ∀ d ∈ after.detectors, d.hasField = after.hasField) ↔
      ∀ field, fields.head? = some field → field.kind ≠ .none) := by
  have reachable : s.Reachable := Reachable.close ⟨calls, rfl⟩ closing
  have unset := reachable.carries_none (closed?_of_close closing)
  obtain ⟨carries, answers⟩ := Geometry.carries_offerAll unset fields
  have accepted : .ok () ∈ (g.offerAll fields).2 ↔ fields ≠ [] := by
    rw [answers]
    cases fields <;> simp
  have sampled : ∀ d ∈ (g.offerAll fields).1.detectors, d.hasField = true ↔ fields ≠ [] := by
    intro d member
    rw [carries.hasField_of_mem member]
    cases fields <;> simp
  refine ⟨accepted, fun d member => (sampled d member).trans accepted.symm, carries.hasField_iff, ?_⟩
  constructor
  · rintro ⟨told, _⟩ field isFirst
    have nonempty : fields ≠ [] := by
      rintro rfl
      cases isFirst
    obtain ⟨first, isFirst', kind⟩ := carries.hasField_iff.mp (told.mpr (accepted.mpr nonempty))
    cases isFirst.symm.trans isFirst'
    exact kind
  · intro kinds
    have told : (g.offerAll fields).1.hasField = true ↔ fields ≠ [] := by
      rw [carries.hasField_iff]
      cases fields with
      | nil => simp
      | cons field rest => simpa using kinds field rfl
    refine ⟨told.trans accepted.symm, fun d member => ?_⟩
    rw [Bool.eq_iff_iff, told, sampled d member]

end Setup

namespace Sample

def single : List (Call Float) :=
  [.addModel (pad "basic"), .addDetector "dut" .zero ⟨.zero, .zero, .zero⟩ "basic"]

def unnamed : MagneticField Float := ⟨.none, fun p => p⟩

theorem single_closes : ((Setup.empty.after single).close (files "")).2.isOk = true := by
  decide +kernel

theorem single_flags :
    ∃ s g, (Setup.empty.after single).close (files "") = (s, .ok g) ∧
      (g.offerAll [.constant .zero, unnamed]).1.hasField = true ∧
      ∀ d ∈ (g.offerAll [.constant .zero, unnamed]).1.detectors, d.hasField = true := by
  obtain ⟨s, g, closing⟩ := Outcome.exists_of_isOk_snd single_closes
  obtain ⟨accepted, sampled, told, _⟩ := Setup.field_flags closing [.constant .zero, unnamed]
  refine ⟨s, g, closing, told.mpr ⟨_, rfl, FieldKind.noConfusion⟩, fun d member => ?_⟩
  exact (sampled d member).mpr (accepted.mpr (List.cons_ne_nil _ _))

theorem unnamed_denied :
    ∃ s g, (Setup.empty.after single).close (files "") = (s, .ok g) ∧
      (g.setField unnamed).2 = .ok () ∧ (∀ p, (g.setField unnamed).1.fieldAt p = p) ∧
      (g.setField unnamed).1.hasField = false ∧
      (g.setField unnamed).1.detectors.map Detector.hasField = [true] := by
  obtain ⟨s, g, closing⟩ := Outcome.exists_of_isOk_snd single_closes
  have reachable : s.Reachable := Setup.Reachable.close ⟨single, rfl⟩ closing
  have unset := reachable.carries_none (Setup.closed?_of_close closing)
  have flags : ((Setup.empty.after single).close (files "")).2.toOption.map (fun g =>
      ((g.setField unnamed).1.hasField, (g.setField unnamed).1.detectors.map Detector.hasField)) =
        some (false, [true]) := by
    decide +kernel
  rw [closing] at flags
  obtain ⟨denied, sampled⟩ := Prod.mk.inj (Option.some.inj flags)
  refine ⟨s, g, closing, congrArg Prod.snd (unset.setField_eq unnamed), fun p => ?_, denied,
    sampled⟩
  rw [unset.setField_eq]
  rfl

end Sample

namespace Setup

variable [Scalar α] [Trigonometry α]

/-- The first field that is set on a closed geometry lasts. Before it there is no field anywhere.
From then on the geometry has its value at every position, every detector has the value at its own
position, and all later fields are refused and change nothing. -/
theorem first_field_lasts {calls : List (Call α)} {files : FileSystem} {s : Setup α}
    {g : Geometry α} (closing : (empty.after calls).close files = (s, .ok g)) :
    (g.fieldKind = .none ∧ (∀ p, g.fieldAt p = .zero) ∧
      ∀ d ∈ g.detectors, d.hasField = false ∧ d.field = .zero) ∧
    ∀ (first : MagneticField α) (later : List (MagneticField α)),
      let after := (g.offerAll (first :: later)).1
      (g.offerAll (first :: later)).2 = .ok () :: later.map (fun _ => .error .fieldAlreadySet) ∧
      after = (g.setField first).1 ∧
      (∀ p, after.fieldAt p = first.value p) ∧ after.fieldKind = first.kind ∧
      after.detectors =
        g.detectors.map (fun d => { d with sampledField := some (first.value d.position) }) ∧
      (∀ d ∈ after.detectors, d.hasField = true ∧ d.field = after.fieldAt d.position) ∧
      ∃ s', s.setField first = (s', .ok ()) ∧ s'.geometry = .ok after ∧
        ∀ field, s'.setField field = (s', .error (.geometry .fieldAlreadySet)) := by
  have closed := closed?_of_close closing
  have unset := (Reachable.close ⟨calls, rfl⟩ closing).carries_none closed
  refine ⟨⟨unset.fieldKind_eq, unset.fieldAt_eq, fun d member => ?_⟩, fun first later => ?_⟩
  · exact ⟨unset.hasField_of_mem member, (unset.field_of_mem member).trans (unset.fieldAt_eq _)⟩
  have carries := g.carries_filled first
  have reached : g.offerAll (first :: later) =
      (g.filled first, .ok () :: later.map fun _ => .error .fieldAlreadySet) := by
    simp only [Geometry.offerAll, unset.setField_eq, carries.offerAll_again]
  rw [reached, unset.setField_eq]
  refine ⟨rfl, rfl, carries.fieldAt_eq, carries.fieldKind_eq, rfl, fun d member => ?_, ?_⟩
  · exact ⟨carries.hasField_of_mem member, carries.field_of_mem member⟩
  · refine ⟨{ s with closed? := some (g.filled first) }, ?_, rfl, fun field => ?_⟩
    · simp only [setField, geometry, closed, unset.setField_eq]
      rfl
    · simp only [setField, geometry, carries.setField_again]
      rfl

end Setup

namespace Sample

def spread : List (Call Float) :=
  [.addModel (pad "basic"), .addDetector "near" .zero ⟨.zero, .zero, .zero⟩ "basic",
   .addDetector "far" ⟨0, 0, 1⟩ ⟨.zero, .zero, .zero⟩ "basic"]

def radial : MagneticField Float := ⟨.constant, fun p => p⟩

/-- The second field would be zero everywhere. -/
theorem spread_keeps_radial :
    ∃ s g, (Setup.empty.after spread).close (files "") = (s, .ok g) ∧
      (∀ d ∈ g.detectors, d.hasField = false) ∧
      (g.offerAll [radial, .constant .zero]).2 = [.ok (), .error .fieldAlreadySet] ∧
      (∀ p, (g.offerAll [radial, .constant .zero]).1.fieldAt p = p) ∧
      ∀ d ∈ (g.offerAll [radial, .constant .zero]).1.detectors, d.field = d.position := by
  have closes : ((Setup.empty.after spread).close (files "")).2.isOk = true := by
    decide +kernel
  obtain ⟨s, g, closing⟩ := Outcome.exists_of_isOk_snd closes
  obtain ⟨⟨_, _, blank⟩, lasts⟩ := Setup.first_field_lasts closing
  obtain ⟨answers, _, values, _, _, sampled, _⟩ := lasts radial [.constant .zero]
  refine ⟨s, g, closing, fun d member => (blank d member).1, answers, values, fun d member => ?_⟩
  rw [(sampled d member).2, values]
  rfl

end Sample

end DetectorGeometry
