import DetectorGeometry.Proofs.Outcome
import DetectorGeometry.Setup.Close
import DetectorGeometry.Setup.Load
import Mathlib.Logic.Relation

/-!
Runs of calls on a new setup. A call that fails leaves the setup as it was, except that loading
keeps the detectors in front of the first section that is rejected. Whatever the calls are, a setup
changes in the five ways of `Setup.Change` only (`Call.changes`), so that a property which each of
them keeps holds of every setup that can be reached (`Setup.Reachable.induct`).
-/
namespace DetectorGeometry

variable {α : Type}

inductive Call (α : Type) where
  | load (env : Environment) (noise : Noise α) (sections : List Section) (global : Section)
      (seeder : Seeder)
  | addDetector (name : String) (position : Vec3 α) (orientation : Matrix3 α) (modelType : String)
  | addModel (model : Model α)
  | addPoint (point : Vec3 α)
  | addModelPath (path : Path)
  | close (files : FileSystem)

inductive Answer (α : Type) where
  | loaded (seeder : Seeder) (result : Except Error Unit)
  | added (result : Except Error Unit)
  | closed (result : Except Error (Geometry α))

def Call.perform [Scalar α] [Trigonometry α] (s : Setup α) : Call α → Setup α × Answer α
  | load env noise sections global seeder =>
    let (s, seeder, result) := s.load env noise sections global seeder
    (s, .loaded seeder result)
  | addDetector name position orientation modelType =>
    (s.addDetector name position orientation modelType).map id .added
  | addModel model => (s.addModel model).map id .added
  | addPoint point => (s.addPoint point).map id .added
  | addModelPath path => (s.addModelPath path).map id .added
  | close files => (s.close files).map id .closed

namespace Setup

/-- What can happen to a setup at once. -/
inductive Change [Scalar α] (s : Setup α) : Setup α → Prop where
  | detector {settings position orientation s'} (isOpen : s.isClosed = false)
      (registered : s.register settings position orientation = (s', .ok ())) : Change s s'
  | model {m models} (isOpen : s.isClosed = false) (inserted : s.models.insert m = .ok models) :
      Change s { s with models }
  | point (isOpen : s.isClosed = false) (p : Vec3 α) : Change s { s with points := s.points ++ [p] }
  | paths (isOpen : s.isClosed = false) (more : List Path) :
      Change s { s with modelPaths := s.modelPaths ++ more }
  | closing {files g} (isOpen : s.isClosed = false) (assembled : s.assemble files = .ok g) :
      Change s { s with models := g.models, closed? := some g }

/-- A step that fails leaves the setup as it was. -/
def Atomic {β : Type} (s : Setup α) (step : Setup α × Except Error β) : Prop :=
  ∀ e, step.2 = .error e → step.1 = s

theorem Atomic.cases {β : Type} {s : Setup α} {step : Setup α × Except Error β}
    (atomic : s.Atomic step) : (∃ e, step = (s, .error e)) ∨ ∃ s' b, step = (s', .ok b) := by
  obtain ⟨s', result⟩ := step
  cases result with
  | ok b => exact .inr ⟨s', b, rfl⟩
  | error e => exact .inl ⟨e, Prod.ext (atomic e rfl) rfl⟩

theorem atomic_error {β : Type} (s : Setup α) (e : Error) :
    s.Atomic ((s, .error e) : Setup α × Except Error β) :=
  fun _ _ => rfl

theorem Atomic.keeps {β : Type} {s : Setup α} {step : Setup α × Except Error β}
    (atomic : s.Atomic step) (holds : Setup α → Prop) (start : holds s)
    (kept : ∀ s' b, step = (s', .ok b) → holds s') : holds step.1 := by
  rcases atomic.cases with ⟨e, rfl⟩ | ⟨s', b, rfl⟩
  · exact start
  · exact kept s' b rfl

theorem Atomic.view_eq {β γ : Type} {s : Setup α} {step : Setup α × Except Error β}
    (atomic : s.Atomic step) (view : Setup α → γ)
    (same : ∀ s' b, step = (s', .ok b) → view s' = view s) : view step.1 = view s :=
  atomic.keeps (view · = view s) rfl same

theorem ensureOpen_of_isOpen {s : Setup α} (isOpen : s.isClosed = false) (addition : Addition) :
    s.ensureOpen addition = .ok () := by
  rw [ensureOpen, isOpen]
  rfl

theorem ensureOpen_of_isClosed {s : Setup α} (isClosed : s.isClosed = true) (addition : Addition) :
    s.ensureOpen addition = .error (.geometry (.closed addition)) := by
  rw [ensureOpen, if_pos isClosed]

section Additions

variable {s s' : Setup α} {addition : Addition} {add : Setup α → Setup α × Except Error Unit}

theorem whenOpen_of_isOpen (isOpen : s.isClosed = false) : s.whenOpen addition add = add s := by
  rw [whenOpen, ensureOpen_of_isOpen isOpen]

theorem whenOpen_of_isClosed (isClosed : s.isClosed = true) :
    s.whenOpen addition add = (s, .error (.geometry (.closed addition))) := by
  rw [whenOpen, ensureOpen_of_isClosed isClosed]

theorem whenOpen_eq_ok :
    s.whenOpen addition add = (s', .ok ()) ↔ s.isClosed = false ∧ add s = (s', .ok ()) := by
  cases closed : s.isClosed with
  | false => simp [whenOpen_of_isOpen closed]
  | true => simp [whenOpen_of_isClosed closed]

theorem atomic_whenOpen (atomic : s.Atomic (add s)) : s.Atomic (s.whenOpen addition add) := by
  cases closed : s.isClosed with
  | false => rwa [whenOpen_of_isOpen closed]
  | true =>
    rw [whenOpen_of_isClosed closed]
    exact atomic_error s _

end Additions

theorem closed?_eq_none {s : Setup α} : s.closed? = none ↔ s.isClosed = false := by
  cases closed : s.closed? <;> simp [isClosed, closed]

def enlist (s : Setup α) (typeName : String) (settings : Section) (position : Vec3 α)
    (orientation : Matrix3 α) : Setup α :=
  { s with
    drafts := s.drafts ++ [⟨settings.name, typeName, position, orientation⟩]
    order := s.order ++ [s.drafts.length]
    names := s.names.insert settings.name ()
    requests := s.requests.revise typeName fun earlier =>
      earlier.getD [] ++ [⟨settings, s.drafts.length⟩] }

/-- A section is registered under a free name that is not reserved, and it has to name a type. -/
theorem register_eq_ok {s s' : Setup α} {settings : Section} {position : Vec3 α}
    {orientation : Matrix3 α} :
    s.register settings position orientation = (s', .ok ()) ↔
      settings.name ≠ reservedName ∧ s.hasDetector settings.name = false ∧
        ∃ typeName, settings.get .string "type" = .ok typeName ∧
          s' = s.enlist typeName settings position orientation := by
  simp only [register]
  split
  case isTrue reserved => simp [reserved]
  case isFalse free =>
    split
    case isTrue taken => simp [taken]
    case isFalse new =>
      rw [Bool.not_eq_true] at new
      cases named : settings.get .string "type" with
      | error e => simp
      | ok typeName => simp [free, new, enlist, eq_comm]

theorem atomic_register (s : Setup α) (settings : Section) (position : Vec3 α)
    (orientation : Matrix3 α) : s.Atomic (s.register settings position orientation) := by
  simp only [register]
  split
  case isTrue => exact atomic_error s _
  case isFalse =>
    split
    case isTrue => exact atomic_error s _
    case isFalse =>
      split
      case h_1 => exact atomic_error s _
      case h_2 => exact nofun

theorem register_isClosed {s s' : Setup α} {settings : Section} {position : Vec3 α}
    {orientation : Matrix3 α}
    (registered : s.register settings position orientation = (s', .ok ())) :
    s'.isClosed = s.isClosed := by
  obtain ⟨_, _, typeName, _, rfl⟩ := register_eq_ok.mp registered
  rfl

theorem addDetector_eq_ok {s s' : Setup α} {name : String} {position : Vec3 α}
    {orientation : Matrix3 α} {modelType : String} :
    s.addDetector name position orientation modelType = (s', .ok ()) ↔
      s.isClosed = false ∧
        s.register ((Section.new name none).set "type" modelType) position orientation =
          (s', .ok ()) :=
  whenOpen_eq_ok

theorem addModel_eq_ok {s s' : Setup α} {m : Model α} :
    s.addModel m = (s', .ok ()) ↔
      s.isClosed = false ∧ ∃ models, s.models.insert m = .ok models ∧ s' = { s with models } := by
  refine whenOpen_eq_ok.trans (and_congr_right fun _ => ?_)
  cases s.models.insert m with
  | ok models => simp [eq_comm]
  | error e => simp

theorem addPoint_eq_ok {s s' : Setup α} {p : Vec3 α} :
    s.addPoint p = (s', .ok ()) ↔
      s.isClosed = false ∧ s' = { s with points := s.points ++ [p] } := by
  refine whenOpen_eq_ok.trans (and_congr_right fun _ => ?_)
  rw [Prod.mk.injEq, and_iff_left rfl, eq_comm]

theorem addModelPath_eq_ok {s s' : Setup α} {path : Path} :
    s.addModelPath path = (s', .ok ()) ↔
      s.isClosed = false ∧ s' = { s with modelPaths := s.modelPaths ++ [path] } := by
  refine whenOpen_eq_ok.trans (and_congr_right fun _ => ?_)
  rw [Prod.mk.injEq, and_iff_left rfl, eq_comm]

theorem atomic_addDetector (s : Setup α) (name : String) (position : Vec3 α)
    (orientation : Matrix3 α) (modelType : String) :
    s.Atomic (s.addDetector name position orientation modelType) :=
  atomic_whenOpen (atomic_register s _ position orientation)

theorem atomic_addModel (s : Setup α) (m : Model α) : s.Atomic (s.addModel m) := by
  apply atomic_whenOpen
  split
  case h_1 => exact nofun
  case h_2 => exact atomic_error s _

theorem atomic_addPoint (s : Setup α) (p : Vec3 α) : s.Atomic (s.addPoint p) :=
  atomic_whenOpen nofun

theorem atomic_addModelPath (s : Setup α) (path : Path) : s.Atomic (s.addModelPath path) :=
  atomic_whenOpen nofun

theorem finishLoad_keeps {σ : Type} (holds : Setup α → Prop) (env : Environment)
    (global : Section) (seeder : σ) {step : Setup α × Except Error Unit} (start : holds step.1)
    (appends : ∀ more, holds { step.1 with modelPaths := step.1.modelPaths ++ more }) :
    holds (finishLoad env global seeder step).1 := by
  unfold finishLoad
  split
  case h_1 => exact start
  case h_2 =>
    split
    case h_1 => exact start
    case h_2 paths _ =>
      rw [List.append_assoc]
      exact appends (paths ++ env.modelPaths)

variable [Scalar α]

theorem close_eq_ok {files : FileSystem} {s s' : Setup α} {g : Geometry α}
    (isOpen : s.isClosed = false) :
    s.close files = (s', .ok g) ↔
      s.assemble files = .ok g ∧ s' = { s with models := g.models, closed? := some g } := by
  simp only [close, closed?_eq_none.mpr isOpen]
  cases s.assemble files with
  | error e => simp
  | ok g' =>
    simp only [Prod.mk.injEq, Except.ok.injEq]
    constructor
    · rintro ⟨rfl, rfl⟩
      exact ⟨rfl, rfl⟩
    · rintro ⟨rfl, rfl⟩
      exact ⟨rfl, rfl⟩

theorem close_of_isClosed {files : FileSystem} {s s' : Setup α} {g : Geometry α}
    (isClosed : s.isClosed = true) (closing : s.close files = (s', .ok g)) : s' = s := by
  obtain ⟨g', known⟩ := Option.isSome_iff_exists.mp isClosed
  rw [close, known] at closing
  exact congrArg Prod.fst closing.symm

theorem atomic_close (s : Setup α) (files : FileSystem) : s.Atomic (s.close files) := by
  unfold close
  split
  case h_1 => exact nofun
  case h_2 =>
    split
    case h_1 => exact atomic_error s _
    case h_2 => exact nofun

theorem isOpen_of_changes {s s' : Setup α} (changes : Relation.ReflTransGen Change s s')
    (isOpen : s'.isClosed = false) : s.isClosed = false := by
  rcases changes.cases_head with rfl | ⟨_, change, _⟩
  · exact isOpen
  · cases change <;> assumption

variable [Trigonometry α]

theorem register_of_loadSection {noise : Noise α} {seed : UInt64} {number : Nat} {s s' : Setup α}
    {settings : Section}
    (loaded : s.loadSection noise seed number settings = (s', .ok ())) :
    ∃ position orientation, s.register settings position orientation = (s', .ok ()) := by
  rw [loadSection] at loaded
  split at loaded
  case h_1 => cases loaded
  case h_2 => exact ⟨_, _, loaded⟩

theorem atomic_loadSection (noise : Noise α) (seed : UInt64) (number : Nat) (s : Setup α)
    (settings : Section) : s.Atomic (s.loadSection noise seed number settings) := by
  rw [loadSection]
  split
  case h_1 => exact atomic_error s _
  case h_2 => exact atomic_register s settings _ _

theorem loadSections_keeps (holds : Setup α → Prop)
    (registers : ∀ s s' settings position orientation, s.isClosed = false → holds s →
      s.register settings position orientation = (s', .ok ()) → holds s')
    (noise : Noise α) (seed : UInt64) (sections : List Section) (number : Nat) (s : Setup α)
    (isOpen : s.isClosed = false) (start : holds s) :
    holds (s.loadSections noise seed number sections).1 ∧
      (s.loadSections noise seed number sections).1.isClosed = false := by
  induction sections generalizing number s with
  | nil => exact ⟨start, isOpen⟩
  | cons settings rest ih =>
    rw [loadSections]
    rcases (atomic_loadSection noise seed number s settings).cases with
      ⟨e, failed⟩ | ⟨next, _, loaded⟩
    · rw [failed]
      exact ⟨start, isOpen⟩
    · rw [loaded]
      obtain ⟨position, orientation, registered⟩ := register_of_loadSection loaded
      exact ih (number + 1) next ((register_isClosed registered).trans isOpen)
        (registers s next settings position orientation isOpen start registered)

theorem load_keeps (holds : Setup α → Prop)
    (registers : ∀ s s' settings position orientation, s.isClosed = false → holds s →
      s.register settings position orientation = (s', .ok ()) → holds s')
    (appends : ∀ s more, s.isClosed = false → holds s →
      holds { s with modelPaths := s.modelPaths ++ more })
    (env : Environment) (noise : Noise α) (s : Setup α) (sections : List Section)
    (global : Section) (seeder : Seeder) (start : holds s) :
    holds (s.load env noise sections global seeder).1 := by
  rw [load]
  cases closed : s.isClosed with
  | true =>
    rw [ensureOpen_of_isClosed closed]
    exact start
  | false =>
    rw [ensureOpen_of_isOpen closed]
    obtain ⟨kept, isOpen⟩ :=
      loadSections_keeps holds registers noise seeder.next.1 sections 0 s closed start
    exact finishLoad_keeps holds env global seeder.next.2 kept fun more =>
      appends _ more isOpen kept

end Setup

/-- Every call makes changes of the five kinds, if any. -/
theorem Call.changes [Scalar α] [Trigonometry α] (s : Setup α) (call : Call α) :
    Relation.ReflTransGen Setup.Change s (call.perform s).1 := by
  cases call with
  | load env noise sections global seeder =>
    exact Setup.load_keeps (Relation.ReflTransGen Setup.Change s)
      (fun _ _ _ _ _ isOpen changes registered => changes.tail (.detector isOpen registered))
      (fun _ more isOpen changes => changes.tail (.paths isOpen more))
      env noise s sections global seeder .refl
  | addDetector name position orientation modelType =>
    refine (s.atomic_addDetector name position orientation modelType).keeps
      (Relation.ReflTransGen Setup.Change s) .refl fun s' _ added => ?_
    obtain ⟨isOpen, registered⟩ := Setup.addDetector_eq_ok.mp added
    exact .single (.detector isOpen registered)
  | addModel m =>
    refine (s.atomic_addModel m).keeps (Relation.ReflTransGen Setup.Change s) .refl
      fun s' _ added => ?_
    obtain ⟨isOpen, models, inserted, rfl⟩ := Setup.addModel_eq_ok.mp added
    exact .single (.model isOpen inserted)
  | addPoint p =>
    refine (s.atomic_addPoint p).keeps (Relation.ReflTransGen Setup.Change s) .refl
      fun s' _ added => ?_
    obtain ⟨isOpen, rfl⟩ := Setup.addPoint_eq_ok.mp added
    exact .single (.point isOpen p)
  | addModelPath path =>
    refine (s.atomic_addModelPath path).keeps (Relation.ReflTransGen Setup.Change s) .refl
      fun s' _ added => ?_
    obtain ⟨isOpen, rfl⟩ := Setup.addModelPath_eq_ok.mp added
    exact .single (.paths isOpen [path])
  | close files =>
    refine (s.atomic_close files).keeps (Relation.ReflTransGen Setup.Change s) .refl
      fun s' g closing => ?_
    cases closed : s.isClosed with
    | false =>
      obtain ⟨assembled, rfl⟩ := (Setup.close_eq_ok closed).mp closing
      exact .single (.closing closed assembled)
    | true => rw [Setup.close_of_isClosed closed closing]

namespace Setup

variable [Scalar α] [Trigonometry α]

def after (s : Setup α) (calls : List (Call α)) : Setup α :=
  calls.foldl (fun s call => (call.perform s).1) s

def Reachable (s : Setup α) : Prop := ∃ calls, s = empty.after calls

theorem after_changes (s : Setup α) (calls : List (Call α)) :
    Relation.ReflTransGen Change s (s.after calls) := by
  induction calls generalizing s with
  | nil => exact .refl
  | cons call rest ih => exact (call.changes s).trans (ih _)

/-- What holds of the new setup and is kept by every change holds of every setup that can be
reached. -/
theorem Reachable.induct {holds : Setup α → Prop} (start : holds empty)
    (kept : ∀ s s', holds s → Change s s' → holds s') {s : Setup α} (reachable : s.Reachable) :
    holds s := by
  obtain ⟨calls, equal⟩ := reachable
  have changes := empty.after_changes calls
  rw [← equal] at changes
  clear equal
  induction changes with
  | refl => exact start
  | tail _ change ih => exact kept _ _ ih change

end Setup

end DetectorGeometry
