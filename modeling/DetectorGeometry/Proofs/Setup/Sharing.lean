import DetectorGeometry.Proofs.Setup.ModelSources

/-!
Which detectors share a model. While the drafts are served, every specialization made so far belongs
to one type and one set of changes, and its serial number says when it was made
(`Resolution.Sound`). Two detectors therefore have the same object for a model exactly if they ask
for the same type and the same changes.
-/
namespace DetectorGeometry

variable {α : Type}

namespace Section

theorem get?_overrides (s : Section) (key : String) :
    s.overrides.settings.get? key = if key ∈ placementKeys then none else s.settings.get? key := by
  rw [overrides, Table.get?_filterKeys]
  by_cases isPlacement : key ∈ placementKeys <;> simp [isPlacement]

theorem isEmpty_overrides {s : Section} :
    s.overrides.isEmpty = true ↔ ∀ key, s.has key = true → key ∈ placementKeys := by
  simp only [isEmpty, Table.isEmpty_iff, get?_overrides, has, Table.contains_eq]
  apply forall_congr'
  intro key
  by_cases isPlacement : key ∈ placementKeys <;> simp [isPlacement]

theorem overrides_settings_eq {s t : Section} :
    s.overrides.settings = t.overrides.settings ↔
      ∀ key, key ∉ placementKeys → s.settings.get? key = t.settings.get? key := by
  constructor
  · intro same key isChange
    have value := congrArg (·.get? key) same
    simpa [get?_overrides, isChange] using value
  · intro same
    apply Table.ext_get?
    intro key
    rw [get?_overrides, get?_overrides]
    split
    case isTrue => rfl
    case isFalse isChange => exact same key isChange

end Section

namespace Resolution

/-- What a request is answered with: the generic model of its type if it asks for no changes, else
the specialization made for that type and these changes. -/
def Gives (r : Resolution α) (c : Catalogue α) (typeName : String) (settings : Section)
    (model : Shared (Model α)) : Prop :=
  ∃ generic, c.get? typeName = some generic ∧
    if settings.overrides.isEmpty then model = generic
    else ∃ made ∈ r.made, made.typeName = typeName ∧
      made.overrides = settings.overrides.settings ∧ made.model = model

theorem find?_eq_some {r : Resolution α} {typeName : String} {overrides : Table String}
    {m : Specialization α} (found : r.find? typeName overrides = some m) :
    m ∈ r.made ∧ m.typeName = typeName ∧ m.overrides = overrides := by
  have member := List.mem_of_find?_eq_some found
  have facts := List.find?_some found
  simp only [Bool.and_eq_true, beq_iff_eq, decide_eq_true_eq] at facts
  exact ⟨member, facts⟩

variable [Scalar α]

/-- The resolution after the requests in `served` have been answered. -/
structure Sound (c : Catalogue α) (served : List (String × Request)) (r : Resolution α) : Prop where
  numbers : r.assigned.map (·.1) = served.map (·.2.draft)
  given : ∀ {number model}, (number, model) ∈ r.assigned →
    ∃ typeName settings, (typeName, ⟨settings, number⟩) ∈ served ∧ r.Gives c typeName settings model
  keys : (r.made.map fun m => (m.typeName, m.overrides)).Nodup
  serials : ∀ {i m}, r.made[i]? = some m → m.model.serial = c.size + i
  specialized : ∀ {m}, m ∈ r.made → m.overrides.isEmpty = false ∧
    ∃ generic, c.get? m.typeName = some generic ∧
      generic.value.specialize ⟨"", none, m.overrides⟩ = .ok m.model.value

variable {c : Catalogue α} {served : List (String × Request)} {r : Resolution α}

theorem sound_empty : Sound c [] (empty : Resolution α) where
  numbers := rfl
  given := fun member => nomatch member
  keys := List.nodup_nil
  serials := fun known => nomatch known
  specialized := fun member => nomatch member

theorem Sound.assign (sound : Sound c served r) {typeName : String} {request : Request}
    {model : Shared (Model α)} (gives : r.Gives c typeName request.settings model) :
    Sound c (served ++ [(typeName, request)]) (r.assign request.draft model) := by
  refine ⟨?_, ?_, sound.keys, sound.serials, sound.specialized⟩
  · simp [Resolution.assign, sound.numbers]
  · intro number other member
    rcases List.mem_append.mp member with earlier | last
    · obtain ⟨otherType, settings, known, given⟩ := sound.given earlier
      exact ⟨otherType, settings, List.mem_append_left _ known, given⟩
    · rw [List.mem_singleton] at last
      cases last
      exact ⟨typeName, request.settings, by simp, gives⟩

theorem Sound.make (sound : Sound c served r) {typeName : String} {overrides : Table String}
    {generic : Shared (Model α)} {model : Model α} (known : c.get? typeName = some generic)
    (changes : overrides.isEmpty = false) (new : r.find? typeName overrides = none)
    (specialized : generic.value.specialize ⟨"", none, overrides⟩ = .ok model) :
    Sound c served
      { r with made := r.made ++ [⟨typeName, overrides, ⟨c.size + r.made.length, model⟩⟩] } := by
  refine ⟨sound.numbers, ?_, ?_, ?_, ?_⟩
  · intro number other member
    obtain ⟨otherType, settings, asked, first, found, gives⟩ := sound.given member
    refine ⟨otherType, settings, asked, first, found, ?_⟩
    split at gives
    case isTrue unchanged => simpa [unchanged] using gives
    case isFalse changed =>
      obtain ⟨m, inMade, facts⟩ := gives
      simp only [changed]
      exact ⟨m, List.mem_append_left _ inMade, facts⟩
  · simp only [List.map_append, List.map_cons, List.map_nil]
    refine List.nodup_append.mpr ⟨sound.keys, List.nodup_singleton _, ?_⟩
    intro key inMade last isLast equal
    rw [List.mem_singleton] at isLast
    obtain ⟨m, member, rfl⟩ := List.mem_map.mp inMade
    have differs := List.find?_eq_none.mp new m member
    rw [isLast, Prod.mk.injEq] at equal
    simp [equal.1, equal.2] at differs
  · intro i m place
    rw [List.getElem?_append] at place
    split at place
    case isTrue => exact sound.serials place
    case isFalse outside =>
      obtain ⟨isZero, equal⟩ : i - r.made.length = 0 ∧ _ = m := by
        simpa [List.getElem?_singleton] using place
      have isLast : i = r.made.length := by omega
      rw [← equal, isLast]
  · intro m member
    rcases List.mem_append.mp member with earlier | last
    · exact sound.specialized earlier
    · rw [List.mem_singleton] at last
      rw [last]
      exact ⟨changes, generic, known, specialized⟩

theorem Sound.serve (sound : Sound c served r) {typeName : String} {generic : Shared (Model α)}
    (known : c.get? typeName = some generic) {request : Request} {r' : Resolution α}
    (answered : serve c.size typeName generic r request = .ok r') :
    Sound c (served ++ [(typeName, request)]) r' := by
  simp only [Resolution.serve] at answered
  split at answered
  case isTrue unchanged =>
    cases answered
    exact sound.assign ⟨generic, known, by simp [unchanged]⟩
  case isFalse changed =>
    have changes : request.settings.overrides.settings.isEmpty = false :=
      Bool.eq_false_iff.mpr changed
    split at answered
    case h_1 earlier found =>
      cases answered
      obtain ⟨member, sameType, sameChanges⟩ := find?_eq_some found
      refine sound.assign ⟨generic, known, ?_⟩
      simp only [changed]
      exact ⟨earlier, member, sameType, sameChanges, rfl⟩
    case h_2 new =>
      simp only [Outcome.bind_eq_ok, Outcome.ofSettings_eq_ok] at answered
      obtain ⟨model, specialized, equal⟩ := answered
      cases equal
      refine (sound.make known changes new specialized).assign ⟨generic, known, ?_⟩
      simp only [changed]
      exact ⟨_, List.mem_append_right _ (List.mem_singleton_self _), rfl, rfl, rfl⟩

theorem Sound.serveType (sound : Sound c served r) {entry : String × List Request}
    {r' : Resolution α} (answered : serveType c r entry = .ok r') :
    Sound c (served ++ entry.2.map (entry.1, ·)) r' := by
  unfold Resolution.serveType at answered
  split at answered
  case h_1 => cases answered
  case h_2 generic known =>
    refine Outcome.foldlM_invariant
      (fun before r => Sound c (served ++ before.map (entry.1, ·)) r) ?_ ?_ answered
    · intro before r request r' sound answered
      simpa using sound.serve known answered
    · simpa using sound

theorem Sound.serial_of_made (sound : Sound c served r) {m : Specialization α}
    (member : m ∈ r.made) : c.size ≤ m.model.serial := by
  obtain ⟨i, place⟩ := List.mem_iff_getElem?.mp member
  have serial := sound.serials place
  omega

theorem Sound.same_specialization (sound : Sound c served r) {m n : Specialization α}
    (inMade : m ∈ r.made) (inMade' : n ∈ r.made) :
    m.model.serial = n.model.serial ↔ m.typeName = n.typeName ∧ m.overrides = n.overrides := by
  constructor
  · intro same
    obtain ⟨i, place⟩ := List.mem_iff_getElem?.mp inMade
    obtain ⟨j, place'⟩ := List.mem_iff_getElem?.mp inMade'
    have serial := sound.serials place
    have serial' := sound.serials place'
    have sameIndex : i = j := by omega
    rw [sameIndex, place'] at place
    cases place
    exact ⟨rfl, rfl⟩
  · intro same
    have equal := List.inj_on_of_nodup_map sound.keys inMade inMade' (Prod.ext same.1 same.2)
    rw [equal]

theorem Sound.same_iff (sound : Sound c served r) {typeName typeName' : String}
    {settings settings' : Section} {model model' : Shared (Model α)}
    (gives : r.Gives c typeName settings model) (gives' : r.Gives c typeName' settings' model') :
    model.serial = model'.serial ↔
      typeName = typeName' ∧ settings.overrides.settings = settings'.overrides.settings := by
  obtain ⟨generic, known, answer⟩ := gives
  obtain ⟨generic', known', answer'⟩ := gives'
  -- Generic models have serial numbers below the size of the catalogue, specializations above.
  have below := Catalogue.serial_lt_size known
  have below' := Catalogue.serial_lt_size known'
  split at answer
  case isTrue unchanged =>
    subst answer
    split at answer'
    case isTrue unchanged' =>
      subst answer'
      have noChanges : settings.overrides.settings = settings'.overrides.settings :=
        Table.ext_entries
          ((List.isEmpty_iff.mp unchanged).trans (List.isEmpty_iff.mp unchanged').symm)
      constructor
      · intro same
        exact ⟨Catalogue.typeName_eq_of_serial_eq known known' same, noChanges⟩
      · rintro ⟨rfl, _⟩
        rw [Option.some.inj (known.symm.trans known')]
    case isFalse changed' =>
      obtain ⟨m, inMade, _, _, rfl⟩ := answer'
      constructor
      · intro same
        have above := sound.serial_of_made inMade
        omega
      · rintro ⟨_, same⟩
        exact absurd (show settings'.overrides.settings.isEmpty = true from same ▸ unchanged) changed'
  case isFalse changed =>
    obtain ⟨m, inMade, rfl, sameChanges, rfl⟩ := answer
    split at answer'
    case isTrue unchanged' =>
      subst answer'
      constructor
      · intro same
        have above := sound.serial_of_made inMade
        omega
      · rintro ⟨_, same⟩
        exact absurd (show settings.overrides.settings.isEmpty = true from same ▸ unchanged') changed
    case isFalse =>
      obtain ⟨n, inMade', rfl, sameChanges', rfl⟩ := answer'
      rw [← sameChanges, ← sameChanges']
      exact sound.same_specialization inMade inMade'

end Resolution

namespace Setup

def allRequests (s : Setup α) : List (String × Request) :=
  s.requests.entries.flatMap fun entry => entry.2.map (entry.1, ·)

theorem mem_allRequests {s : Setup α} {number : Nat} {typeName : String} {settings : Section} :
    (typeName, ⟨settings, number⟩) ∈ s.allRequests ↔ s.Asks number typeName settings := by
  simp only [allRequests, List.mem_flatMap, List.mem_map, Asks]
  constructor
  · rintro ⟨⟨_, requests⟩, inTable, request, inList, equal⟩
    cases equal
    exact ⟨requests, (Table.mem_entries_iff _ _ _).mp inTable, inList⟩
  · rintro ⟨requests, found, inList⟩
    exact ⟨(typeName, requests), (Table.mem_entries_iff _ _ _).mpr found, _, inList, rfl⟩

theorem Consistent.getElem?_finished {s : Setup α} (sound : s.Consistent) {r : Resolution α}
    {detectors : List (Detector α)}
    (finished : (s.numbered.mapM fun (draft, number) => finishDraft r draft number) =
      .ok detectors) {number : Nat} {detector : Detector α} :
    detectors[number]? = some detector ↔
      ∃ draft model, s.drafts[number]? = some draft ∧ r.model? number = some model ∧
        detector = ⟨draft.name, draft.position, draft.orientation, model, none⟩ := by
  rw [sound.numbered_eq] at finished
  have place := Outcome.getElem?_mapM finished number
  rw [List.getElem?_zipIdx, Option.map_map, Nat.zero_add] at place
  cases known : s.drafts[number]? with
  | none =>
    rw [known, Option.map_none, Option.map_eq_none_iff] at place
    simp [place]
  | some draft =>
    rw [known, Option.map_some, Option.map_eq_some_iff] at place
    obtain ⟨made, inList, equal⟩ := place
    rw [inList]
    simp only [Function.comp_apply, finishDraft] at equal
    split at equal
    case h_1 model found =>
      cases equal
      simp [found, eq_comm]
    case h_2 => cases equal

variable [Scalar α]

theorem resolve_sound {s : Setup α} {c : Catalogue α} {r : Resolution α}
    (resolved : s.resolve c = .ok r) : r.Sound c s.allRequests := by
  refine Outcome.foldlM_invariant
    (fun before r => r.Sound c (before.flatMap fun entry => entry.2.map (entry.1, ·))) ?_
    Resolution.sound_empty resolved
  intro before r entry r' sound answered
  simpa using sound.serveType answered

theorem Consistent.model?_eq_some {s : Setup α} (sound : s.Consistent) {c : Catalogue α}
    {r : Resolution α} (resolved : r.Sound c s.allRequests) {number : Nat} {typeName : String}
    {settings : Section} (asks : s.Asks number typeName settings) :
    ∃ model, r.model? number = some model ∧ r.Gives c typeName settings model := by
  have inNumbers : number ∈ r.assigned.map (·.1) := by
    rw [resolved.numbers]
    exact List.mem_map.mpr ⟨_, mem_allRequests.mpr asks, rfl⟩
  have answered : (r.assigned.lookup number).isSome = true := by
    obtain ⟨entry, member, equal⟩ := List.mem_map.mp inNumbers
    exact List.lookup_isSome_iff.mpr ⟨entry, member, by simp [equal]⟩
  obtain ⟨model, found⟩ := Option.isSome_iff_exists.mp answered
  refine ⟨model, found, ?_⟩
  obtain ⟨before, after, inList, _⟩ := List.lookup_eq_some_iff.mp found
  have member : (number, model) ∈ r.assigned := by simp [inList]
  obtain ⟨otherType, others, asked, gives⟩ := resolved.given member
  obtain ⟨rfl, rfl⟩ := sound.unique asks (mem_allRequests.mp asked)
  exact gives

theorem Consistent.detector_of_close {s s' : Setup α} (sound : s.Consistent)
    (isOpen : s.isClosed = false) {files : FileSystem} {g : Geometry α}
    (closing : s.close files = (s', .ok g)) :
    ∃ r : Resolution α, r.Sound g.models s.allRequests ∧
      ∀ {number detector typeName settings}, g.detectors[number]? = some detector →
        s.Asks number typeName settings →
        detector.name = settings.name ∧ settings.get .string "type" = .ok typeName ∧
          r.Gives g.models typeName settings detector.model := by
  obtain ⟨assembled, _⟩ := (close_eq_ok isOpen).mp closing
  obtain ⟨models, r, detectors, _, resolved, finished, rfl⟩ := assemble_eq_ok.mp assembled
  have resolutionSound := resolve_sound resolved
  refine ⟨r, resolutionSound, fun inList asks => ?_⟩
  obtain ⟨draft, model, known, found, rfl⟩ := (sound.getElem?_finished finished).mp inList
  obtain ⟨draft', known', name, _, type⟩ := sound.asked asks
  obtain ⟨model', found', gives⟩ := sound.model?_eq_some resolutionSound asks
  obtain rfl := Option.some.inj (known.symm.trans known')
  obtain rfl := Option.some.inj (found.symm.trans found')
  exact ⟨name, type, gives⟩

end Setup

namespace Geometry

theorem model_eq_ok {g : Geometry α} {typeName : String} {m : Shared (Model α)} :
    g.model typeName = .ok m ↔ g.models.get? typeName = some m := by
  simp only [model]
  cases g.models.get? typeName <;> simp

/-- The model that a detector has by right, given its section and the type that the section asks
for. -/
structure ModelFits [Scalar α] (g : Geometry α) (typeName : String) (settings : Section)
    (detector : Detector α) : Prop where
  name : detector.name = settings.name
  type : settings.get .string "type" = .ok typeName
  unchanged : (∀ key, settings.has key = true → key ∈ Section.placementKeys) →
    g.model typeName = .ok detector.model
  changed : (∃ key, settings.has key = true ∧ key ∉ Section.placementKeys) →
    (∀ other model, g.model other = .ok model → detector.model.same model = false) ∧
      ∃ generic, g.model typeName = .ok generic ∧
        generic.value.specialize settings.overrides = .ok detector.model.value

end Geometry

namespace Setup

variable [Scalar α] [Trigonometry α]

/-- Every detector of a closed geometry has the model that its section asks for, and two detectors
share a model exactly if they ask for the same type and the same changes. -/
theorem models_of_close {s s' : Setup α} {files : FileSystem} {g : Geometry α}
    (reachable : s.Reachable) (isOpen : s.isClosed = false)
    (closing : s.close files = (s', .ok g)) :
    (∀ number detector, g.detectors[number]? = some detector →
      (∃ typeName settings, s.Asks number typeName settings) ∧
      ∀ typeName settings, s.Asks number typeName settings →
        g.ModelFits typeName settings detector) ∧
    (∀ number number' detector detector' typeName typeName' settings settings',
      g.detectors[number]? = some detector → s.Asks number typeName settings →
      g.detectors[number']? = some detector' → s.Asks number' typeName' settings' →
      (detector.model.same detector'.model = true ↔
        typeName = typeName' ∧ ∀ key, key ∉ Section.placementKeys →
          settings.settings.get? key = settings'.settings.get? key)) := by
  have sound := reachable.consistent
  obtain ⟨r, resolutionSound, answers⟩ := sound.detector_of_close isOpen closing
  constructor
  · intro number detector inList
    constructor
    · obtain ⟨assembled, _⟩ := (close_eq_ok isOpen).mp closing
      obtain ⟨_, _, detectors, _, _, finished, rfl⟩ := assemble_eq_ok.mp assembled
      obtain ⟨draft, _, known, _⟩ := (sound.getElem?_finished finished).mp inList
      obtain ⟨settings, asks⟩ := sound.asking known
      exact ⟨draft.modelType, settings, asks⟩
    · intro typeName settings asks
      obtain ⟨name, type, generic, known, answer⟩ := answers inList asks
      refine ⟨name, type, fun unchanged => ?_, fun ⟨key, defined, isChange⟩ => ?_⟩
      · simp only [Section.isEmpty_overrides.mpr unchanged, if_true] at answer
        rw [Geometry.model_eq_ok, answer]
        exact known
      · have changed : ¬ settings.overrides.isEmpty = true := fun isEmpty =>
          isChange (Section.isEmpty_overrides.mp isEmpty key defined)
        simp only [changed] at answer
        obtain ⟨m, inMade, rfl, sameChanges, isModel⟩ := answer
        obtain ⟨_, generic', known', specialized⟩ := resolutionSound.specialized inMade
        rw [← isModel]
        constructor
        · intro other model found
          have below := Catalogue.serial_lt_size (Geometry.model_eq_ok.mp found)
          have above := resolutionSound.serial_of_made inMade
          have differs : m.model.serial ≠ model.serial := by omega
          exact beq_eq_false_iff_ne.mpr differs
        · rw [sameChanges] at specialized
          exact ⟨generic', Geometry.model_eq_ok.mpr known', specialized⟩
  · intro number number' detector detector' typeName typeName' settings settings' inList asks
      inList' asks'
    obtain ⟨_, _, gives⟩ := answers inList asks
    obtain ⟨_, _, gives'⟩ := answers inList' asks'
    rw [← Section.overrides_settings_eq, ← resolutionSound.same_iff gives gives']
    exact beq_iff_eq

end Setup

namespace Sample

deriving instance DecidableEq for Request

theorem setup_requests :
    setup.requests.get? "basic" = some [⟨plain, 0⟩, ⟨thick, 1⟩, ⟨twin, 2⟩, ⟨thicker, 3⟩] := by
  decide +kernel

/-- The first detector has the generic model, the second and the third share one of their own, and
the fourth has another one. -/
theorem setup_shares_models :
    ∃ s' g, setup.close (files "") = (s', .ok g) ∧ ∃ a b c d,
      g.detectors = [a, b, c, d] ∧ g.model "basic" = .ok a.model ∧
        (∃ generic, g.model "basic" = .ok generic ∧
          generic.value.specialize thick.overrides = .ok b.model.value) ∧
        b.model.same c.model = true ∧ b.model.same d.model = false := by
  obtain ⟨s', g, closing⟩ := Outcome.exists_of_isOk_snd setup_closes
  refine ⟨s', g, closing, ?_⟩
  have counted : (setup.close (files "")).2.toOption.map (·.detectors.length) = some 4 := by
    decide +kernel
  have count : g.detectors.length = 4 := by simpa [closing, Except.toOption] using counted
  obtain ⟨a, b, c, d, all⟩ := List.length_eq_four.mp count
  obtain ⟨fits, sharing⟩ := Setup.models_of_close ⟨calls, rfl⟩ setup_isOpen closing
  have atA : g.detectors[0]? = some a := by simp [all]
  have atB : g.detectors[1]? = some b := by simp [all]
  have atC : g.detectors[2]? = some c := by simp [all]
  have atD : g.detectors[3]? = some d := by simp [all]
  have asksA : setup.Asks 0 "basic" plain := ⟨_, setup_requests, by simp⟩
  have asksB : setup.Asks 1 "basic" thick := ⟨_, setup_requests, by simp⟩
  have asksC : setup.Asks 2 "basic" twin := ⟨_, setup_requests, by simp⟩
  have asksD : setup.Asks 3 "basic" thicker := ⟨_, setup_requests, by simp⟩
  have thickness : "sensor_thickness" ∉ Section.placementKeys := by decide
  refine ⟨a, b, c, d, all, ?_, ?_, ?_, ?_⟩
  · exact ((fits 0 a atA).2 "basic" plain asksA).unchanged
      (Section.isEmpty_overrides.mp (by decide +kernel))
  · exact (((fits 1 b atB).2 "basic" thick asksB).changed
      ⟨"sensor_thickness", by decide +kernel, thickness⟩).2
  · refine (sharing 1 2 b c _ _ _ _ atB asksB atC asksC).mpr ⟨rfl, ?_⟩
    exact Section.overrides_settings_eq.mp (by decide +kernel)
  · apply Bool.eq_false_iff.mpr
    intro same
    have changes := ((sharing 1 3 b d _ _ _ _ atB asksB atD asksD).mp same).2
    exact absurd (changes "sensor_thickness" thickness) (by decide +kernel)

end Sample

end DetectorGeometry
