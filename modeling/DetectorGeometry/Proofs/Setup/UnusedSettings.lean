import DetectorGeometry.Proofs.Model.Indifference
import DetectorGeometry.Proofs.Setup.Sharing

namespace DetectorGeometry

variable {α : Type}

def Misalignment.keys : List String :=
  ["alignment_precision_position", "alignment_precision_orientation"]

theorem Section.has_overrides {settings : Section} {key : String} :
    settings.overrides.has key = true ↔ key ∉ placementKeys ∧ settings.has key = true := by
  rw [has, has, Table.contains_eq, Table.contains_eq, get?_overrides]
  by_cases placement : key ∈ placementKeys <;> simp [placement]

def Section.OnlyPlaces (settings : Section) : Prop :=
  ∀ key, settings.has key = true → key ∈ placementKeys ∨ key ∈ Misalignment.keys

theorem Section.OnlyPlaces.mem_of_has {settings : Section} (places : settings.OnlyPlaces)
    {key : String} (defined : settings.overrides.has key = true) : key ∈ Misalignment.keys := by
  obtain ⟨isChange, defined⟩ := has_overrides.mp defined
  exact (places key defined).resolve_left isChange

variable [Scalar α]

omit [Scalar α] in
theorem Assembly.notMem_alignment_keys (a : Assembly α) :
    ∀ key ∈ a.keys, key ∉ Misalignment.keys := by
  cases a with
  | hybrid bonding =>
    have apart : ∀ key ∈ commonKeys ++ "chip_thickness" :: BumpBonding.keys,
        key ∉ Misalignment.keys := by decide
    exact apart
  | monolithic =>
    have apart : ∀ key ∈ commonKeys, key ∉ Misalignment.keys := by decide
    exact apart

namespace Model

theorem spares_of_onlyPlaces (m : Model α) {settings : Section} (places : settings.OnlyPlaces) :
    m.Spares settings.overrides := by
  constructor
  · intro key used
    apply Bool.eq_false_iff.mpr
    intro defined
    exact m.assembly.notMem_alignment_keys key used (places.mem_of_has defined)
  · intro _ defined
    exact absurd (places.mem_of_has defined) (by decide)

theorem SameGeometry.refl (m : Model α) : m.SameGeometry m :=
  sameGeometry_of_eq rfl fun _ => rfl

theorem obtained_of_load {files : FileSystem} {path : Path} {m : Model α}
    (read : load files path = .ok m) : m.Obtained := by
  simp only [load, Outcome.bind_eq_ok] at read
  obtain ⟨_, _, _, _, made⟩ := read
  exact .read made

end Model

namespace Setup

variable [Trigonometry α]

theorem mem_calls_of_mem_addedModels {s : Setup α} {calls : List (Call α)} {m : Model α}
    (added : m ∈ s.addedModels calls) : .addModel m ∈ calls := by
  induction calls generalizing s with
  | nil => cases added
  | cons call rest ih =>
    rcases List.mem_append.mp added with here | later
    · cases call with
      | addModel other =>
        simp only [Call.addedModels] at here
        split at here
        · rw [List.mem_singleton.mp here]
          exact List.mem_cons_self
        · cases here
      | _ => cases here
    · exact List.mem_cons_of_mem _ (ih later)

theorem obtained_of_close {calls : List (Call α)}
    (added : ∀ m, .addModel m ∈ calls → m.Obtained) (isOpen : (empty.after calls).isClosed = false)
    {files : FileSystem} {s : Setup α} {g : Geometry α}
    (closing : (empty.after calls).close files = (s, .ok g)) {m : Model α}
    (listed : m ∈ g.models.models) : m.Obtained := by
  obtain ⟨assembled, _⟩ := (close_eq_ok isOpen).mp closing
  obtain ⟨models, _, _, loaded, _, _, rfl⟩ := assemble_eq_ok.mp assembled
  rw [(Reachable.consistent ⟨calls, rfl⟩).loadModels_eq] at loaded
  simp only [Outcome.bind_eq_ok, Outcome.ofSettings_eq_ok] at loaded
  obtain ⟨_, _, read, reading, equal⟩ := loaded
  cases equal
  rcases List.mem_append.mp listed with own | isRead
  · rw [models_after empty calls isOpen] at own
    exact added m (mem_calls_of_mem_addedModels own)
  · obtain ⟨_, _, made⟩ := Outcome.mem_of_mapM reading isRead
    exact Model.obtained_of_load made

/-- Settings that a model is not made from make no difference to its geometry. In particular a
detector that says no more than where it stands, and how precisely, has a model like the generic
one of its type. -/
theorem unused_settings :
    (∀ m : Model α, m.Obtained → ∀ settings : Section, settings.isAnonymous = true →
      m.Spares settings → ∃ n, m.specialize settings = .ok n ∧ m.SameGeometry n) ∧
    ∀ calls : List (Call α), (∀ m, .addModel m ∈ calls → m.Obtained) →
      (empty.after calls).isClosed = false →
      ∀ files s g, (empty.after calls).close files = (s, .ok g) →
        ∀ number d typeName settings, g.detectors[number]? = some d →
          (empty.after calls).Asks number typeName settings → settings.OnlyPlaces →
          ∃ generic, g.model typeName = .ok generic ∧
            generic.value.SameGeometry d.model.value := by
  constructor
  · intro m obtained settings anonymous spares
    exact Model.specialize_of_spares obtained anonymous spares
  · intro calls added isOpen files s g closing number d typeName settings inList asks places
    have sound : (empty.after calls).Consistent := Reachable.consistent ⟨calls, rfl⟩
    obtain ⟨r, resolutionSound, answers⟩ := sound.detector_of_close isOpen closing
    obtain ⟨_, _, generic, known, answer⟩ := answers inList asks
    refine ⟨generic, Geometry.model_eq_ok.mpr known, ?_⟩
    split at answer
    case isTrue unchanged =>
      rw [answer]
      exact .refl _
    case isFalse changed =>
      obtain ⟨made, inMade, rfl, sameChanges, isModel⟩ := answer
      obtain ⟨_, generic', known', specialized⟩ := resolutionSound.specialized inMade
      obtain rfl := Option.some.inj (known.symm.trans known')
      rw [sameChanges, isModel] at specialized
      have obtained := obtained_of_close added isOpen closing
        (List.mem_of_getElem? (Catalogue.get?_eq_some.mp known).2)
      have anonymous : settings.overrides.isAnonymous = true := rfl
      obtain ⟨n, made', same⟩ := Model.specialize_of_spares obtained anonymous
        (generic.value.spares_of_onlyPlaces places)
      cases made'.symm.trans specialized
      exact same

end Setup

namespace Sample

def strayKeys : Section :=
  ((((Section.new "" none).set "chip_thickness" "1mm").set "bump_height" "none").set
    "thickness" "3mm").set "location" "sensor"

def aligned : Section :=
  detector "aligned" [("type", "basic"), ("alignment_precision_position", "10um 0 1mm")]

def alignedCalls : List (Call Float) :=
  [.addModelPath ⟨"/first/basic.conf"⟩,
   .load ⟨files "", ⟨"/none"⟩, none⟩ ⟨fun _ _ => 0⟩ [aligned] (.new "" none) ⟨0⟩]

/-- The stray keys leave a monolithic model alone, and the detector has a model of its own with the
geometry of the generic one. -/
theorem aligned_like_generic :
    (∃ m n : Model Float, Model.ofDocument "basic" ⟨[parameters, carrier]⟩ = .ok m ∧
      m.specialize strayKeys = .ok n ∧ m.SameGeometry n) ∧
    ∃ s g d generic, (Setup.empty.after alignedCalls).close (files "") = (s, .ok g) ∧
      g.detectors[0]? = some d ∧ aligned.overrides.isEmpty = false ∧
      g.model "basic" = .ok generic ∧ generic.value.SameGeometry d.model.value := by
  obtain ⟨spared, closed⟩ := Setup.unused_settings (α := Float)
  constructor
  · have reads : (Model.ofDocument (α := Float) "basic" ⟨[parameters, carrier]⟩).map
        (·.assembly.keyword) = .ok "monolithic" := by decide +kernel
    obtain ⟨m, read, kind⟩ := Outcome.map_eq_ok.mp reads
    have monolithic : m.assembly = .monolithic := by
      cases assembly : m.assembly with
      | monolithic => rfl
      | hybrid bonding =>
        rw [assembly] at kind
        have other : "hybrid" = "monolithic" := kind
        exact absurd other (by decide)
    have number : (strayKeys.get (.number (α := Float)) "chip_thickness").isOk = true := by
      decide +kernel
    have unused : ∀ key ∈ Assembly.commonKeys, strayKeys.has key = false := by decide +kernel
    obtain ⟨n, made, same⟩ := spared m (.read read) strayKeys rfl
      ⟨monolithic ▸ unused, fun _ _ => Outcome.isOk_iff.mp number⟩
    exact ⟨m, n, read, made, same⟩
  · have closes : ((Setup.empty.after alignedCalls).close (files "")).2.map
        (fun closed => closed.detectors.length) = .ok 1 := by decide +kernel
    obtain ⟨g, closed', (count : g.detectors.length = 1)⟩ := Outcome.map_eq_ok.mp closes
    obtain ⟨s, closing⟩ : ∃ s, (Setup.empty.after alignedCalls).close (files "") = (s, .ok g) :=
      ⟨_, Prod.ext rfl closed'⟩
    obtain ⟨d, all⟩ := List.length_eq_one_iff.mp count
    have inList : g.detectors[0]? = some d := by simp [all]
    have asks : (Setup.empty.after alignedCalls).Asks 0 "basic" aligned :=
      ⟨[⟨aligned, 0⟩], by decide +kernel, List.mem_cons_self⟩
    have places : aligned.OnlyPlaces := by
      intro key defined
      have listed : ∀ key ∈ aligned.settings.entries.map (·.1),
          key ∈ Section.placementKeys ∨ key ∈ Misalignment.keys := by decide +kernel
      exact listed key ((Table.mem_keys_iff _ _).mpr defined)
    have noModel : ∀ m, .addModel m ∈ alignedCalls → m.Obtained := by
      intro m member
      simp [alignedCalls] at member
    obtain ⟨generic, known, same⟩ := closed alignedCalls noModel (by decide +kernel) _ s g closing
      0 d "basic" aligned inList asks places
    exact ⟨s, g, d, generic, closing, inList, by decide +kernel, known, same⟩

end Sample

end DetectorGeometry
