import DetectorGeometry.Proofs.Setup.Lifecycle

/-!
Additions of different kinds do not see each other. An addition moves what a setup has of its kind
and is answered from that alone (`Call.perform_only`, `Call.only_perform`), so that a run of
additions splits into one run for each kind (`Setup.split_run`). However these runs are shuffled,
every call is answered the same, and the setup in the end is the same
(`Setup.interleavings_agree`).
-/
namespace DetectorGeometry

variable {α : Type}

namespace Call

def addition? : Call α → Option Addition
  | .addDetector .. => some .detector
  | .addModel _ => some .model
  | .addPoint _ => some .point
  | .addModelPath _ => some .modelPath
  | .load .. | .close _ => none

def adds (kind : Addition) (call : Call α) : Bool := call.addition? == some kind

end Call

namespace Setup

/-- The setup with what it has of one kind, and without the rest. -/
def only (s : Setup α) : Addition → Setup α
  | .detector => { s with models := .empty, points := [], modelPaths := [] }
  | .model => { empty with models := s.models, closed? := s.closed? }
  | .point => { empty with points := s.points, closed? := s.closed? }
  | .modelPath => { empty with modelPaths := s.modelPaths, closed? := s.closed? }

theorem ext_only {s t : Setup α} (same : ∀ kind, s.only kind = t.only kind) : s = t := by
  have detectors := same .detector
  have models := same .model
  have points := same .point
  have paths := same .modelPath
  cases s
  cases t
  cases detectors
  cases models
  cases points
  cases paths
  rfl

theorem isClosed_only (s : Setup α) (kind : Addition) : (s.only kind).isClosed = s.isClosed := by
  cases kind <;> rfl

theorem whenOpen_only {s : Setup α} {kind addition : Addition}
    {add : Setup α → Setup α × Except Error Unit}
    (split : add (s.only kind) = (add s).map (·.only kind) id) :
    (s.only kind).whenOpen addition add = (s.whenOpen addition add).map (·.only kind) id := by
  cases closed : s.isClosed with
  | true =>
    rw [whenOpen_of_isClosed closed, whenOpen_of_isClosed (s.isClosed_only kind ▸ closed)]
    rfl
  | false =>
    rw [whenOpen_of_isOpen closed, whenOpen_of_isOpen (s.isClosed_only kind ▸ closed), split]

theorem register_only (s : Setup α) (settings : Section) (position : Vec3 α)
    (orientation : Matrix3 α) :
    (s.only .detector).register settings position orientation =
      (s.register settings position orientation).map (·.only .detector) id := by
  have sameNames : (s.only .detector).hasDetector settings.name = s.hasDetector settings.name := rfl
  simp only [register, sameNames]
  split
  case isTrue => rfl
  case isFalse =>
    split
    case isTrue => rfl
    case isFalse => split <;> rfl

theorem addDetector_only (s : Setup α) (name : String) (position : Vec3 α)
    (orientation : Matrix3 α) (modelType : String) :
    (s.only .detector).addDetector name position orientation modelType =
      (s.addDetector name position orientation modelType).map (·.only .detector) id :=
  whenOpen_only (s.register_only _ position orientation)

theorem addModel_only (s : Setup α) (m : Model α) :
    (s.only .model).addModel m = (s.addModel m).map (·.only .model) id := by
  have sameModels : (s.only .model).models = s.models := rfl
  apply whenOpen_only
  simp only [sameModels]
  cases s.models.insert m <;> rfl

theorem addPoint_only (s : Setup α) (p : Vec3 α) :
    (s.only .point).addPoint p = (s.addPoint p).map (·.only .point) id :=
  whenOpen_only rfl

theorem addModelPath_only (s : Setup α) (path : Path) :
    (s.only .modelPath).addModelPath path = (s.addModelPath path).map (·.only .modelPath) id :=
  whenOpen_only rfl

end Setup

namespace Call

variable [Scalar α] [Trigonometry α]

theorem perform_only {call : Call α} {kind : Addition} (adds : call.addition? = some kind)
    (s : Setup α) :
    call.perform (s.only kind) = ((call.perform s).1.only kind, (call.perform s).2) := by
  cases call with
  | load | close => cases adds
  | addDetector name position orientation modelType =>
    cases adds
    rw [perform, s.addDetector_only]
    rfl
  | addModel m =>
    cases adds
    rw [perform, s.addModel_only]
    rfl
  | addPoint p =>
    cases adds
    rw [perform, s.addPoint_only]
    rfl
  | addModelPath path =>
    cases adds
    rw [perform, s.addModelPath_only]
    rfl

theorem only_perform {call : Call α} {kind other : Addition} (adds : call.addition? = some other)
    (differs : other ≠ kind) (s : Setup α) : (call.perform s).1.only kind = s.only kind := by
  cases call with
  | load | close => cases adds
  | addDetector name position orientation modelType =>
    cases adds
    refine (s.atomic_addDetector name position orientation modelType).view_eq (·.only kind)
      fun t _ added => ?_
    obtain ⟨_, registered⟩ := Setup.addDetector_eq_ok.mp added
    obtain ⟨_, _, typeName, _, rfl⟩ := Setup.register_eq_ok.mp registered
    cases kind with
    | detector => exact absurd rfl differs
    | model | point | modelPath => rfl
  | addModel m =>
    cases adds
    refine (s.atomic_addModel m).view_eq (·.only kind) fun t _ added => ?_
    obtain ⟨_, models, _, rfl⟩ := Setup.addModel_eq_ok.mp added
    cases kind with
    | model => exact absurd rfl differs
    | detector | point | modelPath => rfl
  | addPoint p =>
    cases adds
    refine (s.atomic_addPoint p).view_eq (·.only kind) fun t _ added => ?_
    obtain ⟨_, rfl⟩ := Setup.addPoint_eq_ok.mp added
    cases kind with
    | point => exact absurd rfl differs
    | detector | model | modelPath => rfl
  | addModelPath path =>
    cases adds
    refine (s.atomic_addModelPath path).view_eq (·.only kind) fun t _ added => ?_
    obtain ⟨_, rfl⟩ := Setup.addModelPath_eq_ok.mp added
    cases kind with
    | modelPath => exact absurd rfl differs
    | detector | model | point => rfl

end Call

/-- What the caller gets to see of a step. A detector that is added gets a number. -/
structure Reply (α : Type) where
  call : Call α
  answer : Answer α
  number? : Option Nat

def Step.reply (step : Step α) : Reply α :=
  match step.call, step.answer with
  | .addDetector name position orientation modelType, .added (.ok ()) =>
    ⟨.addDetector name position orientation modelType, .added (.ok ()),
      some step.before.drafts.length⟩
  | call, answer => ⟨call, answer, none⟩

theorem Step.reply_only {call : Call α} {kind : Addition} (adds : call.addition? = some kind)
    (s : Setup α) (answer : Answer α) :
    (⟨s.only kind, call, answer⟩ : Step α).reply = (⟨s, call, answer⟩ : Step α).reply := by
  cases call with
  | addDetector =>
    cases adds
    cases answer with
    | added result => cases result <;> rfl
    | loaded | closed => rfl
  | addModel | addPoint | addModelPath | load | close => rfl

namespace Setup

variable [Scalar α] [Trigonometry α]

def replies (s : Setup α) (kind : Addition) (calls : List (Call α)) : List (Reply α) :=
  ((s.steps calls).filter (·.call.adds kind)).map Step.reply

/-- What a run does to one kind is what its calls of that kind do by themselves. -/
theorem split_run {calls : List (Call α)} (additions : ∀ call ∈ calls, call.addition? ≠ none)
    (s : Setup α) (kind : Addition) :
    (s.after calls).only kind = (s.only kind).after (calls.filter (·.adds kind)) ∧
      s.replies kind calls = (s.only kind).replies kind (calls.filter (·.adds kind)) := by
  induction calls generalizing s with
  | nil => exact ⟨rfl, rfl⟩
  | cons call rest ih =>
    obtain ⟨other, adds⟩ := Option.ne_none_iff_exists'.mp (additions call List.mem_cons_self)
    obtain ⟨sameSetup, sameReplies⟩ :=
      ih (fun later member => additions later (List.mem_cons_of_mem _ member)) (call.perform s).1
    by_cases same : other = kind
    · subst same
      have isOfKind : call.adds other = true := beq_iff_eq.mpr adds
      have moved := Call.perform_only adds s
      rw [List.filter_cons_of_pos isOfKind]
      constructor
      · rw [after, after, List.foldl_cons, List.foldl_cons, moved]
        exact sameSetup
      · simp only [replies, steps, List.filter_cons, isOfKind, if_true, List.map_cons, moved,
          Step.reply_only adds]
        exact congrArg _ sameReplies
    · have isOther : call.adds kind = false := by simp [Call.adds, adds, same]
      have untouched := Call.only_perform adds same s
      rw [List.filter_cons_of_neg (by simp [isOther])]
      rw [untouched] at sameSetup sameReplies
      refine ⟨sameSetup, ?_⟩
      simp only [replies, steps, List.filter_cons, isOther]
      exact sameReplies

/-- Two orders of the same additions that agree on the order within each kind get the same replies
and lead to the same setup, so that closing it has the same outcome on all file systems. -/
theorem interleavings_agree (s : Setup α) {calls calls' : List (Call α)}
    (additions : ∀ call ∈ calls, call.addition? ≠ none)
    (additions' : ∀ call ∈ calls', call.addition? ≠ none)
    (sameOrders : ∀ kind, calls.filter (·.adds kind) = calls'.filter (·.adds kind)) :
    (∀ kind, s.replies kind calls = s.replies kind calls') ∧
      s.after calls = s.after calls' ∧
      ∀ files, (s.after calls).close files = (s.after calls').close files := by
  have sameReplies : ∀ kind, s.replies kind calls = s.replies kind calls' := by
    intro kind
    rw [(split_run additions s kind).2, (split_run additions' s kind).2, sameOrders]
  have sameSetup : s.after calls = s.after calls' := by
    refine ext_only fun kind => ?_
    rw [(split_run additions s kind).1, (split_run additions' s kind).1, sameOrders]
  exact ⟨sameReplies, sameSetup, fun files => by rw [sameSetup]⟩

end Setup

namespace Sample

def upright : Matrix3 Float := ⟨.zero, .zero, .zero⟩

def sorted : List (Call Float) :=
  [.addDetector "front" .zero upright "basic", .addDetector "front" .zero upright "other",
   .addModel (pad "basic"), .addModel (pad "basic"), .addPoint .zero]

def shuffled : List (Call Float) :=
  [.addModel (pad "basic"), .addDetector "front" .zero upright "basic", .addPoint .zero,
   .addModel (pad "basic"), .addDetector "front" .zero upright "other"]

theorem shuffled_as_sorted :
    Setup.empty.replies .detector shuffled = Setup.empty.replies .detector sorted ∧
      (Setup.empty.replies .detector shuffled).map (·.number?) = [some 0, none] ∧
      ∃ s g, (Setup.empty.after shuffled).close (files "") = (s, .ok g) ∧
        (Setup.empty.after sorted).close (files "") = (s, .ok g) := by
  have additions : ∀ call ∈ shuffled, call.addition? ≠ none := by decide
  have additions' : ∀ call ∈ sorted, call.addition? ≠ none := by decide
  have sameOrders : ∀ kind, shuffled.filter (·.adds kind) = sorted.filter (·.adds kind) := by
    intro kind
    cases kind <;> rfl
  obtain ⟨replies, _, closes⟩ :=
    Setup.empty.interleavings_agree additions additions' sameOrders
  have isOk : ((Setup.empty.after shuffled).close (files "")).2.isOk = true := by
    decide +kernel
  obtain ⟨s, g, closing⟩ := Outcome.exists_of_isOk_snd isOk
  exact ⟨replies .detector, by decide +kernel, s, g, closing, closes (files "") ▸ closing⟩

end Sample

end DetectorGeometry
