import DetectorGeometry.Proofs.Setup.Sealing

namespace DetectorGeometry

variable {α : Type}

structure Step (α : Type) where
  before : Setup α
  call : Call α
  answer : Answer α

def Step.isFailedClose (step : Step α) : Bool :=
  match step.answer with
  | .closed (.error _) => true
  | _ => false

namespace Setup

variable [Scalar α] [Trigonometry α]

def steps (s : Setup α) : List (Call α) → List (Step α)
  | [] => []
  | call :: rest => ⟨s, call, (call.perform s).2⟩ :: steps (call.perform s).1 rest

/-- The steps of a run but for the closes that fail. -/
def lastingSteps (s : Setup α) (calls : List (Call α)) : List (Step α) :=
  (s.steps calls).filter (!·.isFailedClose)

structure Final (s : Setup α) (g : Geometry α) : Prop where
  geometry : s.geometry = .ok g
  close : ∀ files, s.close files = (s, .ok g)
  load : ∀ env noise sections global seeder,
    s.load env noise sections global seeder = (s, seeder, .error (.geometry (.closed .detector)))
  addDetector : ∀ name position orientation modelType,
    s.addDetector name position orientation modelType =
      (s, .error (.geometry (.closed .detector)))
  addModel : ∀ m, s.addModel m = (s, .error (.geometry (.closed .model)))
  addPoint : ∀ p, s.addPoint p = (s, .error (.geometry (.closed .point)))
  addModelPath : ∀ path, s.addModelPath path = (s, .error (.geometry (.closed .modelPath)))

theorem after_append (s : Setup α) (calls more : List (Call α)) :
    s.after (calls ++ more) = (s.after calls).after more :=
  List.foldl_append

theorem final_of_closed? {s : Setup α} {g : Geometry α} (closed : s.closed? = some g) :
    s.Final g := by
  have isClosed : s.isClosed = true := by rw [Setup.isClosed, closed, Option.isSome_some]
  constructor
  case geometry => rw [Setup.geometry, closed]
  case close =>
    intro files
    rw [Setup.close, closed]
  case load =>
    intro env noise sections global seeder
    rw [Setup.load, ensureOpen_of_isClosed isClosed]
  case addDetector => exact fun _ _ _ _ => whenOpen_of_isClosed isClosed
  case addModel => exact fun _ => whenOpen_of_isClosed isClosed
  case addPoint => exact fun _ => whenOpen_of_isClosed isClosed
  case addModelPath => exact fun _ => whenOpen_of_isClosed isClosed

end Setup

namespace Call

variable [Scalar α] [Trigonometry α]

theorem perform_close {s s' : Setup α} {files : FileSystem} {g : Geometry α}
    (closing : s.close files = (s', .ok g)) :
    (close files).perform s = (s', .closed (.ok g)) := by
  rw [perform, closing]
  rfl

theorem perform_final {s : Setup α} {g : Geometry α} (final : s.Final g) (call : Call α) :
    (call.perform s).1 = s := by
  cases call with
  | load env noise sections global seeder => rw [perform, final.load]
  | addDetector name position orientation modelType => rw [perform, final.addDetector]; rfl
  | addModel m => rw [perform, final.addModel]; rfl
  | addPoint p => rw [perform, final.addPoint]; rfl
  | addModelPath path => rw [perform, final.addModelPath]; rfl
  | close files => rw [perform, final.close]; rfl

theorem perform_failedClose {s : Setup α} {call : Call α}
    (failed : (⟨s, call, (call.perform s).2⟩ : Step α).isFailedClose = true) :
    s.isClosed = false ∧ (call.perform s).1 = s := by
  cases call with
  | load | addDetector | addModel | addPoint | addModelPath => cases failed
  | close files =>
    rcases (s.atomic_close files).cases with ⟨e, closing⟩ | ⟨s', g, closing⟩
    · refine ⟨Bool.eq_false_iff.mpr fun isClosed => ?_, by rw [perform, closing]; rfl⟩
      obtain ⟨g, closed⟩ := Option.isSome_iff_exists.mp isClosed
      rw [(Setup.final_of_closed? closed).close] at closing
      cases closing
    · rw [perform_close closing] at failed
      cases failed

end Call

namespace Setup

variable [Scalar α] [Trigonometry α]

theorem Final.after {s : Setup α} {g : Geometry α} (final : s.Final g) (later : List (Call α)) :
    s.after later = s := by
  induction later with
  | nil => rfl
  | cons call rest ih => rw [Setup.after, List.foldl_cons, Call.perform_final final call]; exact ih

theorem failedClose_leaves {s : Setup α} {calls : List (Call α)} {step : Step α}
    (member : step ∈ s.steps calls) (failed : step.isFailedClose = true) :
    step.before.isClosed = false ∧ (step.call.perform step.before).1 = step.before := by
  induction calls generalizing s with
  | nil => cases member
  | cons call rest ih =>
    rcases List.mem_cons.mp member with rfl | later
    · exact Call.perform_failedClose failed
    · exact ih later

/-- Without the closes that fail a run goes through the same setups, is answered the same and ends
at the same setup. -/
theorem steps_lastingSteps (s : Setup α) (calls : List (Call α)) :
    s.steps ((s.lastingSteps calls).map (·.call)) = s.lastingSteps calls ∧
      s.after ((s.lastingSteps calls).map (·.call)) = s.after calls := by
  induction calls generalizing s with
  | nil => exact ⟨rfl, rfl⟩
  | cons call rest ih =>
    obtain ⟨sameSteps, sameEnd⟩ := ih (call.perform s).1
    cases failed : (⟨s, call, (call.perform s).2⟩ : Step α).isFailedClose with
    | true =>
      have unchanged := (Call.perform_failedClose failed).2
      have lasting : s.lastingSteps (call :: rest) = s.lastingSteps rest := by
        simp [lastingSteps, steps, failed, unchanged]
      rw [unchanged] at sameSteps sameEnd
      rw [lasting]
      refine ⟨sameSteps, sameEnd.trans ?_⟩
      rw [after, after, List.foldl_cons, unchanged]
    | false =>
      have lasting : s.lastingSteps (call :: rest) =
          ⟨s, call, (call.perform s).2⟩ :: (call.perform s).1.lastingSteps rest := by
        simp [lastingSteps, steps, failed]
      rw [lasting, List.map_cons]
      exact ⟨congrArg _ sameSteps, sameEnd⟩

theorem closed?_of_close {s s' : Setup α} {files : FileSystem} {g : Geometry α}
    (closing : s.close files = (s', .ok g)) : s'.closed? = some g := by
  cases closed : s.closed? with
  | none =>
    obtain ⟨_, rfl⟩ := (close_eq_ok (closed?_eq_none.mp closed)).mp closing
    rfl
  | some known =>
    rw [(final_of_closed? closed).close] at closing
    cases closing
    exact closed

theorem Reachable.close {s s' : Setup α} (reachable : s.Reachable) {files : FileSystem}
    {g : Geometry α} (closing : s.close files = (s', .ok g)) : s'.Reachable := by
  obtain ⟨calls, rfl⟩ := reachable
  refine ⟨calls ++ [.close files], ?_⟩
  rw [after_append]
  exact (congrArg Prod.fst (Call.perform_close closing)).symm

theorem Reachable.hasDetector_eq {s : Setup α} (reachable : s.Reachable) {g : Geometry α}
    (closed : s.closed? = some g) (name : String) : s.hasDetector name = g.hasDetector name := by
  have seals := reachable.seals closed
  rw [Bool.eq_iff_iff, reachable.consistent.known, Geometry.hasDetector_iff seals.positions,
    seals.names]

/-- Closes that fail have no effect on a run. Once a close has gone well, its geometry stays,
closing again gives it again, nothing can be added or changed any more, and the setup knows the same
detectors, models and paths as the geometry. -/
theorem lifecycle (calls : List (Call α)) :
    empty.steps ((empty.lastingSteps calls).map (·.call)) = empty.lastingSteps calls ∧
    empty.after ((empty.lastingSteps calls).map (·.call)) = empty.after calls ∧
    (∀ step ∈ empty.steps calls, step.isFailedClose = true →
      step.before.isClosed = false ∧ (step.call.perform step.before).1 = step.before) ∧
    ∀ files s g, (empty.after calls).close files = (s, .ok g) →
      s.Final g ∧ (∀ later, s.after later = s) ∧
        (∀ name, s.hasDetector name = g.hasDetector name) ∧
        (∀ name, s.hasModel name = g.hasModel name) ∧ s.modelPaths = g.modelPaths := by
  obtain ⟨sameSteps, sameEnd⟩ := empty.steps_lastingSteps calls
  refine ⟨sameSteps, sameEnd, fun _ => failedClose_leaves, fun files s g closing => ?_⟩
  have closed := closed?_of_close closing
  have reachable : s.Reachable := Reachable.close ⟨calls, rfl⟩ closing
  have final := final_of_closed? closed
  have seals := reachable.seals closed
  refine ⟨final, final.after, reachable.hasDetector_eq closed, fun name => ?_, ?_⟩
  · rw [hasModel, Geometry.hasModel, seals.models]
  · exact seals.modelPaths.symm

end Setup

namespace Sample

def hastyCalls : List (Call Float) :=
  [.load ⟨files "", ⟨"/none"⟩, none⟩ ⟨fun _ _ => 0⟩ [plain, thick] (.new "" none) ⟨0⟩,
   .close (files ""), .addModelPath ⟨"/first/basic.conf"⟩]

theorem hasty_closes_later :
    (Setup.empty.lastingSteps hastyCalls).length = 2 ∧
    Setup.empty.after ((Setup.empty.lastingSteps hastyCalls).map (·.call)) =
      Setup.empty.after hastyCalls ∧
    ∃ s g, (Setup.empty.after hastyCalls).close (files "") = (s, .ok g) ∧
      s.close (files "broken") = (s, .ok g) ∧
      s.addPoint .zero = (s, .error (.geometry (.closed .point))) ∧
      s.after hastyCalls = s ∧ s.hasDetector "thick" = g.hasDetector "thick" := by
  obtain ⟨_, sameEnd, _, final⟩ := Setup.lifecycle hastyCalls
  have closes : ((Setup.empty.after hastyCalls).close (files "")).2.isOk = true := by
    decide +kernel
  obtain ⟨s, g, closing⟩ := Outcome.exists_of_isOk_snd closes
  obtain ⟨closed, stays, names, _⟩ := final _ s g closing
  refine ⟨by decide +kernel, sameEnd, s, g, closing, closed.close _, closed.addPoint _,
    stays hastyCalls, names "thick"⟩

end Sample

end DetectorGeometry
