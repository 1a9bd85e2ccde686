import DetectorGeometry.Proofs.Geometry.Lookup
import DetectorGeometry.Proofs.Model.Specialization
import DetectorGeometry.Proofs.Setup.Sharing

namespace DetectorGeometry

variable {α : Type}

def Detector.draft (d : Detector α) : Draft α := ⟨d.name, d.typeName, d.position, d.orientation⟩

theorem Resolution.Sound.typeName_of_gives [Scalar α] {c : Catalogue α}
    {served : List (String × Request)} {r : Resolution α} (sound : r.Sound c served)
    {typeName : String} {settings : Section} {model : Shared (Model α)}
    (gives : r.Gives c typeName settings model) : model.value.typeName = typeName := by
  obtain ⟨generic, known, answer⟩ := gives
  split at answer
  case isTrue =>
    rw [answer]
    exact Catalogue.typeName_of_get? known
  case isFalse =>
    obtain ⟨m, inMade, rfl, _, rfl⟩ := answer
    obtain ⟨_, generic', known', specialized⟩ := sound.specialized inMade
    rw [(Model.specialize_eq_ok rfl specialized).1]
    exact Catalogue.typeName_of_get? known'

namespace Setup

/-- The geometry contains what the setup has registered. -/
structure Seals (s : Setup α) (g : Geometry α) : Prop where
  detectors : g.detectors.map Detector.draft = s.drafts
  positions : g.positions = Geometry.positionsOf g.detectors
  models : g.models = s.models
  modelPaths : g.modelPaths = s.modelPaths

theorem Seals.names {s : Setup α} {g : Geometry α} (seals : s.Seals g) :
    g.detectors.map (·.name) = s.drafts.map (·.name) := by
  rw [← seals.detectors, List.map_map]
  rfl

variable [Scalar α]

theorem Consistent.drafts_of_assemble {s : Setup α} (sound : s.Consistent) {files : FileSystem}
    {g : Geometry α} (assembled : s.assemble files = .ok g) :
    g.detectors.map Detector.draft = s.drafts := by
  obtain ⟨models, r, detectors, _, resolved, finished, rfl⟩ := assemble_eq_ok.mp assembled
  have served := resolve_sound resolved
  have typed : ∀ {number draft model}, s.drafts[number]? = some draft →
      r.model? number = some model → model.value.typeName = draft.modelType := by
    intro number draft model known found
    obtain ⟨settings, asks⟩ := sound.asking known
    obtain ⟨model', found', gives⟩ := sound.model?_eq_some served asks
    obtain rfl := Option.some.inj (found.symm.trans found')
    exact served.typeName_of_gives gives
  apply List.ext_getElem?
  intro number
  apply Option.ext
  intro draft
  rw [List.getElem?_map, Option.map_eq_some_iff]
  constructor
  · rintro ⟨d, inList, rfl⟩
    obtain ⟨draft, model, known, found, rfl⟩ := (sound.getElem?_finished finished).mp inList
    rw [known, Detector.draft, Detector.typeName, typed known found]
  · intro known
    obtain ⟨settings, asks⟩ := sound.asking known
    obtain ⟨model, found, _⟩ := sound.model?_eq_some served asks
    refine ⟨_, (sound.getElem?_finished finished).mpr ⟨draft, model, known, found, rfl⟩, ?_⟩
    rw [Detector.draft, Detector.typeName, typed known found]

theorem Consistent.seals_closing {s : Setup α} (sound : s.Consistent) {files : FileSystem}
    {g : Geometry α} (assembled : s.assemble files = .ok g) :
    ({ s with models := g.models, closed? := some g } : Setup α).Seals g := by
  have drafts := sound.drafts_of_assemble assembled
  obtain ⟨models, r, detectors, _, _, _, rfl⟩ := assemble_eq_ok.mp assembled
  exact ⟨drafts, rfl, rfl, rfl⟩

theorem close_of_change {s s' : Setup α} (change : Change s s') {g : Geometry α}
    (closed : s'.closed? = some g) :
    s.isClosed = false ∧ ∃ files, s.close files = (s', .ok g) := by
  cases change with
  | @closing files _ isOpen assembled =>
    cases closed
    exact ⟨isOpen, files, (close_eq_ok isOpen).mpr ⟨assembled, rfl⟩⟩
  | detector isOpen registered =>
    have stillOpen := (register_isClosed registered).trans isOpen
    rw [← closed?_eq_none, closed] at stillOpen
    cases stillOpen
  | model isOpen _ | point isOpen _ | paths isOpen _ =>
    have known : s.closed? = some g := closed
    rw [closed?_eq_none.mpr isOpen] at known
    cases known

/-- Whatever was called in the meantime, a closed setup is what closing has left. -/
theorem Reachable.exists_close [Trigonometry α] {s : Setup α} (reachable : s.Reachable)
    {g : Geometry α} (closed : s.closed? = some g) :
    ∃ t : Setup α, t.Consistent ∧ t.isClosed = false ∧ ∃ files, t.close files = (s, .ok g) := by
  let holds (s : Setup α) : Prop := s.Consistent ∧ ∀ g, s.closed? = some g →
    ∃ t : Setup α, t.Consistent ∧ t.isClosed = false ∧ ∃ files, t.close files = (s, .ok g)
  have start : holds empty := ⟨consistent_empty, fun _ closed => nomatch closed⟩
  have kept (s s' : Setup α) (before : holds s) (change : Change s s') : holds s' :=
    ⟨before.1.change change, fun _ closed => ⟨s, before.1, close_of_change change closed⟩⟩
  exact (reachable.induct start kept).2 g closed

theorem Reachable.seals [Trigonometry α] {s : Setup α} (reachable : s.Reachable) {g : Geometry α}
    (closed : s.closed? = some g) : s.Seals g := by
  obtain ⟨t, sound, isOpen, files, closing⟩ := reachable.exists_close closed
  obtain ⟨assembled, rfl⟩ := (close_eq_ok isOpen).mp closing
  exact sound.seals_closing assembled

end Setup

end DetectorGeometry
