import DetectorGeometry.Proofs.Setup.Bookkeeping
import DetectorGeometry.Proofs.Setup.Lifecycle
import Mathlib.Data.List.Forall2

namespace DetectorGeometry

variable {α : Type}

structure Registration (α : Type) where
  settings : Section
  position : Vec3 α
  orientation : Matrix3 α

namespace Registration

def place (r : Registration α) : String × Vec3 α × Matrix3 α :=
  (r.settings.name, r.position, r.orientation)

def asksFor (r : Registration α) (typeName : String) : Bool :=
  (r.settings.get .string "type").toOption == some typeName

/-- What the draft of a registration looks like. -/
structure Makes (r : Registration α) (draft : Draft α) : Prop where
  name : draft.name = r.settings.name
  position : draft.position = r.position
  orientation : draft.orientation = r.orientation
  type : r.settings.get .string "type" = .ok draft.modelType

theorem Makes.asksFor_eq {r : Registration α} {draft : Draft α} (makes : r.Makes draft)
    (typeName : String) : r.asksFor typeName = (draft.modelType == typeName) := by
  rw [asksFor, makes.type]
  simp [Except.toOption]

end Registration

def Detector.place (d : Detector α) : String × Vec3 α × Matrix3 α :=
  (d.name, d.position, d.orientation)

def Registration.select (registered : List (Registration α)) (detectors : List (Detector α))
    (typeName : String) : List (Detector α) :=
  ((detectors.zip registered).filter (·.2.asksFor typeName)).map (·.1)

section Made

variable {registered : List (Registration α)} {detectors : List (Detector α)}

theorem places_of_made
    (made : List.Forall₂ (fun r (d : Detector α) => r.Makes d.draft) registered detectors) :
    detectors.map Detector.place = registered.map Registration.place := by
  induction made with
  | nil => rfl
  | @cons r d _ _ makes _ ih =>
    have samePlace : d.place = r.place :=
      Prod.ext makes.name (Prod.ext makes.position makes.orientation)
    rw [List.map_cons, List.map_cons, samePlace, ih]

theorem select_of_made
    (made : List.Forall₂ (fun r (d : Detector α) => r.Makes d.draft) registered detectors)
    (typeName : String) :
    Registration.select registered detectors typeName =
      detectors.filter (·.typeName == typeName) := by
  induction made with
  | nil => rfl
  | @cons r d _ _ makes _ ih =>
    have sameType : r.asksFor typeName = (d.typeName == typeName) := makes.asksFor_eq typeName
    simp only [Registration.select] at ih
    rw [Registration.select, List.zip_cons_cons, List.filter_cons, List.filter_cons, sameType]
    split
    · rw [List.map_cons, ih]
    · exact ih

end Made

namespace Setup

/-- The drafts of `t` are those of `s` and, behind them, one for each of the registrations. -/
def Adds (s : Setup α) (registered : List (Registration α)) (t : Setup α) : Prop :=
  ∃ made, t.drafts = s.drafts ++ made ∧ List.Forall₂ Registration.Makes registered made

theorem adds_nothing {s t : Setup α} (same : t.drafts = s.drafts) : s.Adds [] t :=
  ⟨[], by rw [same, List.append_nil], .nil⟩

theorem Adds.trans {s t u : Setup α} {first later : List (Registration α)} (adds : s.Adds first t)
    (adds' : t.Adds later u) : s.Adds (first ++ later) u := by
  obtain ⟨made, all, fits⟩ := adds
  obtain ⟨made', all', fits'⟩ := adds'
  exact ⟨made ++ made', by rw [all', all, List.append_assoc], List.rel_append fits fits'⟩

theorem adds_register {s t : Setup α} {settings : Section} {position : Vec3 α}
    {orientation : Matrix3 α} (registered : s.register settings position orientation = (t, .ok ())) :
    s.Adds [⟨settings, position, orientation⟩] t := by
  obtain ⟨_, _, typeName, named, rfl⟩ := register_eq_ok.mp registered
  exact ⟨_, rfl, .cons ⟨rfl, rfl, rfl, named⟩ .nil⟩

end Setup

theorem Setup.Atomic.adds {β : Type} {s : Setup α} {step : Setup α × Except Error β}
    (atomic : s.Atomic step) (same : ∀ t b, step = (t, .ok b) → t.drafts = s.drafts) :
    s.Adds [] step.1 :=
  Setup.adds_nothing (atomic.view_eq (·.drafts) same)

section Registered

variable [Scalar α]

theorem Setup.drafts_close {s s' : Setup α} {files : FileSystem} {g : Geometry α}
    (closing : s.close files = (s', .ok g)) : s'.drafts = s.drafts := by
  cases closed : s.isClosed with
  | false =>
    obtain ⟨_, rfl⟩ := (close_eq_ok closed).mp closing
    rfl
  | true => rw [close_of_isClosed closed closing]

variable [Trigonometry α]

/-- Where a section puts its detector, if it has the number `number` among those loaded. -/
def Section.placement (noise : Noise α) (seed : UInt64) (number : Nat) (settings : Section) :
    Except SettingsError (Vec3 α × Matrix3 α) :=
  settings.placing.map (·.drawn noise seed number)

namespace Setup

theorem loadSection_of_ok {noise : Noise α} {seed : UInt64} {number : Nat} {s : Setup α}
    {settings : Section} {place : Vec3 α × Matrix3 α}
    (placed : settings.placement noise seed number = .ok place) :
    s.loadSection noise seed number settings = s.register settings place.1 place.2 := by
  obtain ⟨c, configured, rfl⟩ := Outcome.map_eq_ok.mp placed
  rw [loadSection, configured]

theorem loadSection_of_error {noise : Noise α} {seed : UInt64} {number : Nat} {s : Setup α}
    {settings : Section} {e : SettingsError}
    (misplaced : settings.placement noise seed number = .error e) :
    s.loadSection noise seed number settings = (s, .error (.settings e)) := by
  rw [loadSection, Outcome.map_eq_error.mp misplaced]

def accepted (noise : Noise α) (seed : UInt64) (number : Nat) (s : Setup α) :
    List Section → List (Registration α)
  | [] => []
  | settings :: rest =>
    match settings.placement noise seed number with
    | .error _ => []
    | .ok (position, orientation) =>
      match s.register settings position orientation with
      | (_, .error _) => []
      | (next, .ok ()) =>
        ⟨settings, position, orientation⟩ :: accepted noise seed (number + 1) next rest

end Setup

def Call.registrations (s : Setup α) : Call α → List (Registration α)
  | .load _ noise sections _ seeder =>
    if s.isClosed then [] else s.accepted noise seeder.next.1 0 sections
  | .addDetector name position orientation modelType =>
    if (s.addDetector name position orientation modelType).2.isOk then
      [⟨(Section.new name none).set "type" modelType, position, orientation⟩]
    else []
  | _ => []

def Setup.registrations (s : Setup α) : List (Call α) → List (Registration α)
  | [] => []
  | call :: rest => call.registrations s ++ registrations (call.perform s).1 rest

namespace Setup

theorem adds_loadSections (noise : Noise α) (seed : UInt64) (sections : List Section)
    (number : Nat) (s : Setup α) :
    s.Adds (s.accepted noise seed number sections)
      (s.loadSections noise seed number sections).1 := by
  induction sections generalizing number s with
  | nil => exact adds_nothing rfl
  | cons settings rest ih =>
    rw [accepted, loadSections]
    cases placed : settings.placement noise seed number with
    | error e =>
      rw [loadSection_of_error placed]
      exact adds_nothing rfl
    | ok place =>
      rw [loadSection_of_ok placed]
      rcases (s.atomic_register settings place.1 place.2).cases with
        ⟨e, refused⟩ | ⟨next, _, registered⟩
      · simp only [refused]
        exact adds_nothing rfl
      · simp only [registered]
        exact (adds_register registered).trans (ih (number + 1) next)

theorem drafts_load {s : Setup α} (isOpen : s.isClosed = false) (env : Environment)
    (noise : Noise α) (sections : List Section) (global : Section) (seeder : Seeder) :
    (s.load env noise sections global seeder).1.drafts =
      (s.loadSections noise seeder.next.1 0 sections).1.drafts := by
  rw [load, ensureOpen_of_isOpen isOpen]
  exact finishLoad_keeps (·.drafts = _) env global seeder.next.2 rfl fun _ => rfl

end Setup

theorem Call.adds_perform (s : Setup α) (call : Call α) :
    s.Adds (call.registrations s) (call.perform s).1 := by
  cases call with
  | load env noise sections global seeder =>
    cases closed : s.isClosed with
    | false =>
      obtain ⟨made, all, fits⟩ := s.adds_loadSections noise seeder.next.1 sections 0
      rw [registrations, closed]
      exact ⟨made, (Setup.drafts_load closed env noise sections global seeder).trans all, fits⟩
    | true =>
      rw [registrations, if_pos closed, perform, Setup.load, Setup.ensureOpen_of_isClosed closed]
      exact Setup.adds_nothing rfl
  | addDetector name position orientation modelType =>
    rw [registrations, perform, Prod.map_fst, id]
    rcases (s.atomic_addDetector name position orientation modelType).cases with
      ⟨e, refused⟩ | ⟨t, _, added⟩
    · rw [refused]
      exact Setup.adds_nothing rfl
    · rw [added]
      exact Setup.adds_register (Setup.addDetector_eq_ok.mp added).2
  | addModel m =>
    refine (s.atomic_addModel m).adds fun t _ added => ?_
    obtain ⟨_, models, _, rfl⟩ := Setup.addModel_eq_ok.mp added
    rfl
  | addPoint p =>
    refine (s.atomic_addPoint p).adds fun t _ added => ?_
    obtain ⟨_, rfl⟩ := Setup.addPoint_eq_ok.mp added
    rfl
  | addModelPath path =>
    refine (s.atomic_addModelPath path).adds fun t _ added => ?_
    obtain ⟨_, rfl⟩ := Setup.addModelPath_eq_ok.mp added
    rfl
  | close files => exact (s.atomic_close files).adds fun t g closing => Setup.drafts_close closing

namespace Setup

theorem adds_after (s : Setup α) (calls : List (Call α)) :
    s.Adds (s.registrations calls) (s.after calls) := by
  induction calls generalizing s with
  | nil => exact adds_nothing rfl
  | cons call rest ih => exact (call.adds_perform s).trans (ih (call.perform s).1)

theorem made_of_close {calls : List (Call α)} {files : FileSystem} {s : Setup α} {g : Geometry α}
    (closing : (empty.after calls).close files = (s, .ok g)) :
    List.Forall₂ (fun r (d : Detector α) => r.Makes d.draft) (empty.registrations calls)
      g.detectors := by
  have seals := (Reachable.close ⟨calls, rfl⟩ closing).seals (closed?_of_close closing)
  obtain ⟨made, all, fits⟩ := empty.adds_after calls
  rw [← List.forall₂_map_right_iff, seals.detectors, drafts_close closing, all]
  exact fits

/-- A closed geometry has the detectors whose registration went well in the run before, in this
order and at their places, and no others. Their names differ, are not reserved and lead to them; a
type leads to those that ask for it, and it is an error if there are none. -/
theorem detectors_of_close {calls : List (Call α)} {files : FileSystem} {s : Setup α}
    {g : Geometry α} (closing : (empty.after calls).close files = (s, .ok g)) :
    g.detectors.map Detector.place = (empty.registrations calls).map Registration.place ∧
    (g.detectors.map (·.name)).Nodup ∧ reservedName ∉ g.detectors.map (·.name) ∧
    (∀ d ∈ g.detectors, g.detector d.name = .ok d) ∧
    (∀ name, name ∉ g.detectors.map (·.name) → g.detector name = .error (.unknownDetector name)) ∧
    ∀ typeName,
      let found := Registration.select (empty.registrations calls) g.detectors typeName
      g.detectorsOfType typeName =
        if found = [] then .error (.unknownModel typeName) else .ok found := by
  have made := made_of_close closing
  have reachable : s.Reachable := Reachable.close ⟨calls, rfl⟩ closing
  have sound := reachable.consistent
  have seals := reachable.seals (closed?_of_close closing)
  have distinct : (g.detectors.map (·.name)).Nodup := seals.names ▸ sound.names
  refine ⟨places_of_made made, distinct, ?_, ?_, ?_, ?_⟩
  · rw [seals.names, ← sound.hasDetector_eq_false]
    exact sound.books.names_free
  · intro d member
    exact Geometry.detector_of_mem seals.positions distinct member
  · intro name absent
    exact Geometry.detector_of_notMem seals.positions absent
  · intro typeName
    rw [select_of_made made, Geometry.detectorsOfType_eq]

end Setup

end Registered

namespace Sample

def halfLoadedCalls : List (Call Float) :=
  [.load ⟨files "", ⟨"/none"⟩, none⟩ ⟨fun _ _ => 0⟩ [plain, thick, plain, twin] (.new "" none) ⟨0⟩,
   .close (files ""), .addModelPath ⟨"/first/basic.conf"⟩]

theorem halfLoaded_detectors :
    ∃ s g, (Setup.empty.after halfLoadedCalls).close (files "") = (s, .ok g) ∧
      g.detectors.map (·.name) = ["plain", "thick"] ∧
      (∃ d, g.detector "thick" = .ok d ∧ d.name = "thick") ∧
      g.detector "twin" = .error (.unknownDetector "twin") ∧
      g.detectorsOfType "other" = .error (.unknownModel "other") := by
  have closes : ((Setup.empty.after halfLoadedCalls).close (files "")).2.isOk = true := by
    decide +kernel
  obtain ⟨s, g, closing⟩ := Outcome.exists_of_isOk_snd closes
  obtain ⟨places, _, _, known, unknown, types⟩ := Setup.detectors_of_close closing
  have registered : (Setup.empty.registrations halfLoadedCalls).map (·.settings.name) =
      ["plain", "thick"] := by
    decide +kernel
  have names : g.detectors.map (·.name) = ["plain", "thick"] := by
    have sameNames := congrArg (List.map Prod.fst) places
    rw [List.map_map, List.map_map] at sameNames
    exact sameNames.trans registered
  have noOther : (Setup.empty.registrations halfLoadedCalls).all (!·.asksFor "other") = true := by
    decide +kernel
  refine ⟨s, g, closing, names, ?_, ?_, ?_⟩
  · have member : "thick" ∈ g.detectors.map (·.name) := by simp [names]
    obtain ⟨d, inList, name⟩ := List.mem_map.mp member
    exact ⟨d, name ▸ known d inList, name⟩
  · exact unknown "twin" (by simp [names])
  · have none : Registration.select (Setup.empty.registrations halfLoadedCalls) g.detectors
        "other" = [] := by
      rw [Registration.select, List.map_eq_nil_iff, List.filter_eq_nil_iff]
      rintro ⟨d, r⟩ member
      simpa using List.all_eq_true.mp noOther r (List.of_mem_zip member).2
    rw [types, if_pos none]

end Sample

end DetectorGeometry
