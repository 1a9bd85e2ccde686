import DetectorGeometry.Proofs.Setup.Draws
import DetectorGeometry.Proofs.Setup.SearchPaths

/-!
What loading leaves behind. Sections are registered up to the first one that is rejected, and that
one decides the error; only if there is none the search paths are looked at, and they change only if
all of them are found (`Setup.load_leaves`). The generator is a parameter, and so is the source of
its seed.
-/
namespace DetectorGeometry

variable {σ γ α : Type}

/-- Why a section is rejected if its name is taken or not; the first reason decides. -/
inductive Section.Rejected (α : Type) [Scalar α] (settings : Section) (taken : Prop) :
    Error → Prop where
  | misplaced {e} (misplaced : settings.Misplaced α e) : Rejected α settings taken (.settings e)
  | reserved (placed : ∀ e, ¬ settings.Misplaced α e)
      (reserved : settings.name = Setup.reservedName) :
      Rejected α settings taken (.geometry (.forbiddenName settings.name))
  | taken (placed : ∀ e, ¬ settings.Misplaced α e)
      (free : settings.name ≠ Setup.reservedName) (isTaken : taken) :
      Rejected α settings taken (.geometry (.detectorExists settings.name))
  | typeless (placed : ∀ e, ¬ settings.Misplaced α e)
      (free : settings.name ≠ Setup.reservedName) (new : ¬ taken)
      (absent : settings.has "type" = false) :
      Rejected α settings taken (.settings (.missingKey settings.label "type"))

namespace Setup

def Taken (s : Setup α) (before : List Section) (name : String) : Prop :=
  s.hasDetector name = true ∨ name ∈ before.map (·.name)

theorem taken_nil {s : Setup α} {name : String} : s.Taken [] name ↔ s.hasDetector name = true := by
  simp [Taken]

theorem taken_enlist {s : Setup α} {typeName : String} {settings : Section} {position : Vec3 α}
    {orientation : Matrix3 α} {before : List Section} {name : String} :
    (s.enlist typeName settings position orientation).Taken before name ↔
      s.Taken (settings :: before) name := by
  simp only [Taken, hasDetector_enlist, List.map_cons, List.mem_cons, eq_comm (a := name)]
  rw [or_assoc, or_left_comm]

theorem register_eq_error {s t : Setup α} {settings : Section} {position : Vec3 α}
    {orientation : Matrix3 α} {e : Error} :
    s.register settings position orientation = (t, .error e) ↔ t = s ∧
      (settings.name = reservedName ∧ e = .geometry (.forbiddenName settings.name) ∨
      settings.name ≠ reservedName ∧ s.hasDetector settings.name = true ∧
        e = .geometry (.detectorExists settings.name) ∨
      settings.name ≠ reservedName ∧ s.hasDetector settings.name = false ∧
        settings.has "type" = false ∧ e = .settings (.missingKey settings.label "type")) := by
  rw [register]
  dsimp only
  split
  case isTrue reserved =>
    rw [Prod.mk.injEq, Except.error.injEq, eq_comm (a := s), eq_comm (b := e)]
    simp [reserved]
  case isFalse free =>
    split
    case isTrue taken =>
      rw [Prod.mk.injEq, Except.error.injEq, eq_comm (a := s), eq_comm (b := e)]
      simp [free, taken]
    case isFalse new =>
      split
      case h_1 cause failed =>
        obtain ⟨absent, rfl⟩ := Section.get_string_eq_error.mp failed
        rw [Prod.mk.injEq, Except.error.injEq, eq_comm (a := s), eq_comm (b := e)]
        simp [free, new, absent]
      case h_2 typeName named =>
        have defined : settings.has "type" ≠ false := by
          intro absent
          cases named.symm.trans (Section.get_string_eq_error.mpr ⟨absent, rfl⟩)
        simp [free, new, defined]

/-- The setup `t` is `s` with the detectors of some sections behind its own. The search paths are
left open. -/
structure Gains (s : Setup α) (accepted : List Section) (made : List (Draft α)) (t : Setup α) :
    Prop where
  counted : made.length = accepted.length
  drafts : t.drafts = s.drafts ++ made
  order : t.order = s.order ++ List.range' s.drafts.length made.length
  hasDetector : ∀ name, t.hasDetector name = true ↔ s.Taken accepted name
  asks : ∀ number typeName settings, t.Asks number typeName settings ↔
    s.Asks number typeName settings ∨
      (settings, number) ∈ accepted.zipIdx s.drafts.length ∧
        settings.get .string "type" = .ok typeName
  models : t.models = s.models
  points : t.points = s.points
  closed? : t.closed? = s.closed?

namespace Gains

variable {s t u : Setup α}

theorem nothing (s : Setup α) : s.Gains [] [] s where
  counted := rfl
  drafts := (List.append_nil _).symm
  order := (List.append_nil _).symm
  hasDetector _ := taken_nil.symm
  asks := by simp
  models := rfl
  points := rfl
  closed? := rfl

theorem enlisted {settings : Section} {typeName : String} {position : Vec3 α}
    {orientation : Matrix3 α} (named : settings.get .string "type" = .ok typeName) :
    s.Gains [settings] [⟨settings.name, typeName, position, orientation⟩]
      (s.enlist typeName settings position orientation) where
  counted := rfl
  drafts := rfl
  order := rfl
  hasDetector name := by
    rw [hasDetector_enlist, or_comm, eq_comm (a := settings.name), Taken, List.map_singleton,
      List.mem_singleton]
  asks number other others := by
    rw [asks_enlist, List.zipIdx_singleton, List.mem_singleton, Prod.mk.injEq]
    constructor
    · rintro (earlier | ⟨rfl, rfl, rfl⟩)
      · exact .inl earlier
      · exact .inr ⟨⟨rfl, rfl⟩, named⟩
    · rintro (earlier | ⟨⟨rfl, rfl⟩, named'⟩)
      · exact .inl earlier
      · exact .inr ⟨rfl, Except.ok.inj (named'.symm.trans named), rfl⟩
  models := rfl
  points := rfl
  closed? := rfl

theorem trans {accepted accepted' : List Section} {made made' : List (Draft α)}
    (gains : s.Gains accepted made t) (gains' : t.Gains accepted' made' u) :
    s.Gains (accepted ++ accepted') (made ++ made') u where
  counted := by rw [List.length_append, List.length_append, gains.counted, gains'.counted]
  drafts := by rw [gains'.drafts, gains.drafts, List.append_assoc]
  order := by
    rw [gains'.order, gains.order, gains.drafts, List.append_assoc, List.length_append,
      List.length_append, List.range'_append_1]
  hasDetector name := by
    rw [gains'.hasDetector, Taken, gains.hasDetector, Taken, Taken, List.map_append,
      List.mem_append, or_assoc]
  asks number typeName settings := by
    have next : t.drafts.length = s.drafts.length + accepted.length := by
      rw [gains.drafts, List.length_append, gains.counted]
    rw [gains'.asks, gains.asks, next, List.zipIdx_append, List.mem_append, or_and_right, or_assoc]
  models := gains'.models.trans gains.models
  points := gains'.points.trans gains.points
  closed? := gains'.closed?.trans gains.closed?

theorem withPaths {accepted : List Section} {made : List (Draft α)}
    (gains : s.Gains accepted made t) (paths : List Path) :
    s.Gains accepted made { t with modelPaths := paths } :=
  ⟨gains.counted, gains.drafts, gains.order, gains.hasDetector, gains.asks, gains.models,
    gains.points, gains.closed?⟩

end Gains

section Stopping

variable [Scalar α]

def Accepts (s : Setup α) (accepted : List Section) : Prop :=
  ∀ before settings after, accepted = before ++ settings :: after →
    ∀ e, ¬ settings.Rejected α (s.Taken before settings.name) e

def StopsAt (s : Setup α) (accepted rest : List Section) (e : Error) : Prop :=
  ∃ settings later, rest = settings :: later ∧
    settings.Rejected α (s.Taken accepted settings.name) e

theorem stopsAt_cons {s : Setup α} {accepted later : List Section} {settings : Section}
    {e : Error} :
    s.StopsAt accepted (settings :: later) e ↔
      settings.Rejected α (s.Taken accepted settings.name) e := by
  constructor
  · rintro ⟨_, _, equal, rejected⟩
    cases equal
    exact rejected
  · intro rejected
    exact ⟨settings, later, rfl, rejected⟩

theorem accepts_cons {s : Setup α} {typeName : String} {settings : Section} {position : Vec3 α}
    {orientation : Matrix3 α} {accepted : List Section}
    (first : ∀ e, ¬ settings.Rejected α (s.Taken [] settings.name) e)
    (others : (s.enlist typeName settings position orientation).Accepts accepted) :
    s.Accepts (settings :: accepted) := by
  rintro (_ | ⟨head, before⟩) settings' after parts
  · cases parts
    exact first
  · cases parts
    rw [← taken_enlist]
    exact others before settings' after rfl

theorem stopsAt_enlist {s : Setup α} {typeName : String} {settings : Section} {position : Vec3 α}
    {orientation : Matrix3 α} {accepted rest : List Section} {e : Error} :
    (s.enlist typeName settings position orientation).StopsAt accepted rest e ↔
      s.StopsAt (settings :: accepted) rest e := by
  simp only [StopsAt, taken_enlist]

theorem finishLoad_leaves (env : Environment) (global : Section) (seeder : σ)
    {s : Setup α} {accepted rest : List Section} {made : List (Draft α)}
    {r : Setup α × Except Error Unit} (gains : s.Gains accepted made r.1)
    (paths : r.1.modelPaths = s.modelPaths) (all : r.2 = .ok () ↔ rest = [])
    (stops : ∀ e, r.2 = .error e ↔ s.StopsAt accepted rest e) :
    let r := finishLoad env global seeder r
    s.Gains accepted made r.1 ∧
      (∀ e, r.2.2 = .error e ↔ s.StopsAt accepted rest e ∨
        rest = [] ∧ ∃ cause, global.PathsFail env.files cause ∧ e = .settings cause) ∧
      (∀ e, r.2.2 = .error e → r.1.modelPaths = s.modelPaths) ∧
      (r.2.2 = .ok () → ∃ configured standard, global.Configures env.files configured ∧
        env.Offers standard ∧ r.1.modelPaths = s.modelPaths ++ configured ++ standard) := by
  obtain ⟨t, result⟩ := r
  cases result with
  | error e =>
    have stopped : rest ≠ [] := fun complete => nomatch all.mpr complete
    have ended : finishLoad env global seeder (t, .error e) = (t, seeder, .error e) := rfl
    rw [ended]
    refine ⟨gains, fun e' => ?_, fun _ _ => paths, nofun⟩
    simpa [stopped] using stops e'
  | ok _ =>
    have complete : rest = [] := all.mp rfl
    have unstopped : ∀ e, ¬ s.StopsAt accepted rest e := fun e stopped =>
      nomatch (stops e).mpr stopped
    cases found : configuredPaths env.files global with
    | error cause =>
      have fails : ∀ other, global.PathsFail env.files other ↔ cause = other := by
        intro other
        rw [← configuredPaths_eq_error, found, Except.error.injEq]
      have ended : finishLoad env global seeder (t, .ok ()) =
          (t, seeder, .error (.settings cause)) := by
        simp only [finishLoad, found]
      rw [ended]
      refine ⟨gains, fun e => ?_, fun _ _ => paths, nofun⟩
      rw [or_iff_right (unstopped e)]
      simp [complete, fails, eq_comm]
    | ok configured =>
      have fine : ∀ cause, ¬ global.PathsFail env.files cause := fun cause failed =>
        nomatch found.symm.trans (configuredPaths_eq_error.mpr failed)
      have ended : finishLoad env global seeder (t, .ok ()) =
          ({ t with modelPaths := t.modelPaths ++ configured ++ env.modelPaths }, seeder,
            .ok ()) := by
        simp only [finishLoad, found]
      rw [ended]
      refine ⟨gains.withPaths _, fun e => ?_, nofun, fun _ => ?_⟩
      · simp [unstopped, fine]
      · exact ⟨configured, _, configuredPaths_eq_ok.mp found, env.offers_modelPaths,
          by rw [← paths]⟩

end Stopping

variable [Scalar α] [Trigonometry α]

theorem exists_place (gen : Generator γ α) (state : γ) {settings : Section} {c : Placing α}
    (configured : settings.placing = .ok c) :
    ∃ position orientation later, ∀ s : Setup α, s.loadSectionWith gen state settings =
      (s.register settings position orientation).map id (·.map fun _ => later) := by
  let shift := gen.offsets c.precision.position state
  let turn := gen.offsets c.precision.orientation shift.2
  refine ⟨c.position + shift.1, c.mode.rotation (c.angles + turn.1), turn.2, fun s => ?_⟩
  rw [loadSectionWith, configured]
  rfl

theorem loadSectionWith_of_refused {gen : Generator γ α} {state : γ} {s : Setup α}
    {settings : Section} {e : Error} (placed : ∀ e, ¬ settings.Misplaced α e)
    (refused : ∀ position orientation, s.register settings position orientation = (s, .error e)) :
    s.loadSectionWith gen state settings = (s, .error e) := by
  obtain ⟨c, configured⟩ := Section.exists_placing.mpr placed
  obtain ⟨position, orientation, later, loads⟩ := exists_place gen state configured
  rw [loads, refused]
  rfl

theorem loadSectionWith_eq_error (gen : Generator γ α) (state : γ) (s t : Setup α)
    (settings : Section) {e : Error} :
    s.loadSectionWith gen state settings = (t, .error e) ↔
      t = s ∧ settings.Rejected α (s.Taken [] settings.name) e := by
  constructor
  · intro rejected
    cases placed : settings.placing (α := α) with
    | error cause =>
      rw [loadSectionWith, placed] at rejected
      cases rejected
      exact ⟨rfl, .misplaced (Section.placing_eq_error.mp placed)⟩
    | ok c =>
      obtain ⟨position, orientation, later, loads⟩ := exists_place gen state placed
      have placed := Section.exists_placing.mp ⟨c, placed⟩
      rw [loads] at rejected
      obtain ⟨same, refused⟩ := Prod.mk.inj rejected
      obtain ⟨rfl, ⟨reserved, rfl⟩ | ⟨free, taken, rfl⟩ | ⟨free, new, absent, rfl⟩⟩ :=
        register_eq_error.mp (Prod.ext same (Outcome.map_eq_error.mp refused))
      · exact ⟨rfl, .reserved placed reserved⟩
      · exact ⟨rfl, .taken placed free (taken_nil.mpr taken)⟩
      · exact ⟨rfl, .typeless placed free (by simpa [taken_nil] using new) absent⟩
  · rintro ⟨rfl, rejected⟩
    cases rejected with
    | misplaced misplaced => rw [loadSectionWith, Section.placing_eq_error.mpr misplaced]
    | reserved placed reserved =>
      refine loadSectionWith_of_refused placed fun position orientation => ?_
      exact register_eq_error.mpr ⟨rfl, .inl ⟨reserved, rfl⟩⟩
    | taken placed free taken =>
      refine loadSectionWith_of_refused placed fun position orientation => ?_
      exact register_eq_error.mpr ⟨rfl, .inr (.inl ⟨free, taken_nil.mp taken, rfl⟩)⟩
    | typeless placed free new absent =>
      refine loadSectionWith_of_refused placed fun position orientation => ?_
      rw [taken_nil, Bool.not_eq_true] at new
      exact register_eq_error.mpr ⟨rfl, .inr (.inr ⟨free, new, absent, rfl⟩)⟩

theorem enlist_of_loadSectionWith {gen : Generator γ α} {state later : γ} {s t : Setup α}
    {settings : Section} (loaded : s.loadSectionWith gen state settings = (t, .ok later)) :
    ∃ typeName position orientation, settings.get .string "type" = .ok typeName ∧
      t = s.enlist typeName settings position orientation ∧
      empty.loadSectionWith gen state settings =
        (empty.enlist typeName settings position orientation, .ok later) := by
  cases placed : settings.placing (α := α) with
  | error cause =>
    rw [loadSectionWith, placed] at loaded
    cases loaded
  | ok c =>
    obtain ⟨position, orientation, later', loads⟩ := exists_place gen state placed
    rw [loads] at loaded
    obtain ⟨same, result⟩ := Prod.mk.inj loaded
    obtain ⟨_, done, rfl⟩ := Outcome.map_eq_ok.mp result
    obtain ⟨free, _, typeName, named, rfl⟩ := register_eq_ok.mp (Prod.ext same done)
    refine ⟨typeName, position, orientation, named, rfl, ?_⟩
    rw [loads, register_eq_ok.mpr ⟨free, rfl, typeName, named, rfl⟩]
    rfl

/-- The drafts of sections when each is loaded into a new setup, with the generator as the section
before has left it. -/
inductive LoadedAlone (gen : Generator γ α) : γ → List Section → List (Draft α) → Prop where
  | nil (state) : LoadedAlone gen state [] []
  | cons {state later settings rest alone draft drafts}
      (loaded : empty.loadSectionWith gen state settings = (alone, .ok later))
      (made : alone.drafts = [draft]) (others : LoadedAlone gen later rest drafts) :
      LoadedAlone gen state (settings :: rest) (draft :: drafts)

theorem loadSectionsWith_leaves (gen : Generator γ α) (state : γ) (s : Setup α)
    (sections : List Section) :
    ∃ accepted rest made, sections = accepted ++ rest ∧ s.Accepts accepted ∧
      LoadedAlone gen state accepted made ∧
      s.Gains accepted made (s.loadSectionsWith gen state sections).1 ∧
      (s.loadSectionsWith gen state sections).1.modelPaths = s.modelPaths ∧
      ((s.loadSectionsWith gen state sections).2 = .ok () ↔ rest = []) ∧
      ∀ e, (s.loadSectionsWith gen state sections).2 = .error e ↔ s.StopsAt accepted rest e := by
  induction sections generalizing state s with
  | nil =>
    refine ⟨[], [], [], rfl, ?_, .nil _, .nothing s, rfl, by simp [loadSectionsWith], ?_⟩
    · intro before settings after parts
      simp at parts
    · intro e
      simp [loadSectionsWith, StopsAt]
  | cons settings later ih =>
    cases loaded : s.loadSectionWith gen state settings with
    | mk t result =>
      rw [loadSectionsWith, loaded]
      cases result with
      | error e =>
        obtain ⟨rfl, rejected⟩ := (loadSectionWith_eq_error gen state s t settings).mp loaded
        refine ⟨[], settings :: later, [], rfl, ?_, .nil _, .nothing t, rfl, by simp, fun e' => ?_⟩
        · intro before settings' after parts
          simp at parts
        · have same : e = e' ↔ settings.Rejected α (t.Taken [] settings.name) e' := by
            simpa [loaded] using loadSectionWith_eq_error gen state t t settings
          rw [stopsAt_cons, ← same, Except.error.injEq]
      | ok state' =>
        obtain ⟨typeName, position, orientation, named, rfl, alone⟩ :=
          enlist_of_loadSectionWith loaded
        obtain ⟨accepted, rest, made, parts, fine, others, gains, paths, all, stops⟩ := ih state' _
        refine ⟨settings :: accepted, rest, _ :: made, by rw [parts, List.cons_append],
          accepts_cons ?_ fine, .cons alone rfl others, (Gains.enlisted named).trans gains, paths,
          all, fun e => (stops e).trans stopsAt_enlist⟩
        intro e rejected
        have failed := (loadSectionWith_eq_error gen state s s settings).mpr ⟨rfl, rejected⟩
        cases congrArg Prod.snd (loaded.symm.trans failed)

/-- Loading registers the sections in front of the first one that is rejected and fails with its
error. The search paths come last, and change only if all of them are found. -/
theorem load_leaves (gen : Generator γ α) (next : σ → UInt64 × σ) (env : Environment)
    {s : Setup α} (isOpen : s.isClosed = false) (sections : List Section) (global : Section)
    (seeder : σ) :
    let r := s.loadWith gen next env sections global seeder
    (∃ accepted rest made, sections = accepted ++ rest ∧ s.Accepts accepted ∧
      (rest ≠ [] → ∃ e, s.StopsAt accepted rest e) ∧
      LoadedAlone gen (gen.seeded (next seeder).1) accepted made ∧ s.Gains accepted made r.1 ∧
      (∀ e, r.2.2 = .error e ↔ s.StopsAt accepted rest e ∨
        rest = [] ∧ ∃ cause, global.PathsFail env.files cause ∧ e = .settings cause) ∧
      (∀ e, r.2.2 = .error e → r.1.modelPaths = s.modelPaths) ∧
      (r.2.2 = .ok () → ∃ configured standard, global.Configures env.files configured ∧
        env.Offers standard ∧ r.1.modelPaths = s.modelPaths ++ configured ++ standard)) ∧
    ∀ noise other, s.load env noise sections global other =
      s.loadWith noise.generator Seeder.next env sections global other := by
  refine ⟨?_, fun noise other => load_eq_loadWith_generator env noise s sections global other⟩
  have loaded : s.loadWith gen next env sections global seeder =
      finishLoad env global (next seeder).2
        (s.loadSectionsWith gen (gen.seeded (next seeder).1) sections) := by
    rw [loadWith, ensureOpen, if_neg (by simp [isOpen])]
  obtain ⟨accepted, rest, made, parts, accepts, alone, gains, paths, all, stops⟩ :=
    s.loadSectionsWith_leaves gen (gen.seeded (next seeder).1) sections
  have rejected : rest ≠ [] → ∃ e, s.StopsAt accepted rest e := by
    intro nonempty
    cases ended : (s.loadSectionsWith gen (gen.seeded (next seeder).1) sections).2 with
    | error e => exact ⟨e, (stops e).mp ended⟩
    | ok _ => exact absurd (all.mp ended) nonempty
  rw [loaded]
  exact ⟨accepted, rest, made, parts, accepts, rejected, alone,
    finishLoad_leaves env global (next seeder).2 gains paths all stops⟩

end Setup

namespace Sample

def withPath : Setup Float := Setup.empty.after [.addModelPath ⟨"/first/basic.conf"⟩]

def silence : Noise Float := ⟨fun _ _ => 0⟩

def twice : Setup Float × Seeder × Except Error Unit :=
  withPath.loadWith silence.generator Seeder.next ⟨files "", ⟨"/none"⟩, none⟩
    [plain, thick, plain, twin] ((Section.new "" none).set "model_paths" "/absent") ⟨0⟩

def offering (dataDirectories : Option String) : Environment where
  files := ((((FileTree.empty.addFile ["conf", "models", "basic.conf"] modelText.toUTF8).addDirectory
    ["builtin"]).addDirectory ["data", "allpix", "models"]).addDirectory
    ["usr", "share", "allpix", "models"]).system
  builtinModels := ⟨"/builtin"⟩
  dataDirectories

def ownDirectories : Option String := some "/missing::/data"

def listing (modelPaths : String) : Section :=
  (Section.new "" (some ⟨"/conf/geometry.conf"⟩)).set "model_paths" modelPaths

def routed (dataDirectories : Option String) (modelPaths : String) :
    Setup Float × Seeder × Except Error Unit :=
  withPath.loadWith silence.generator Seeder.next (offering dataDirectories) [plain, thick]
    (listing modelPaths) ⟨0⟩

theorem twice_leaves :
    (twice.2.2 = .error (.geometry (.detectorExists "plain")) ∧
      twice.1.modelPaths = [⟨"/first/basic.conf"⟩] ∧
      twice.1.drafts.map (·.name) = ["plain", "thick"] ∧ twice.1.models = .empty ∧
      ∃ accepted rest, withPath.StopsAt accepted rest (.geometry (.detectorExists "plain")) ∧
        [plain, thick, plain, twin] = accepted ++ rest) ∧
    ((routed ownDirectories "models, /data").2.2 = .ok () ∧
      (routed ownDirectories "models, /data").1.modelPaths =
        [⟨"/first/basic.conf"⟩, ⟨"/conf/models"⟩, ⟨"/data"⟩, ⟨"/builtin"⟩,
          ⟨"/data/allpix/models"⟩] ∧
      ∃ configured standard,
        (listing "models, /data").Configures (offering ownDirectories).files configured ∧
        (offering ownDirectories).Offers standard ∧
        (routed ownDirectories "models, /data").1.modelPaths =
          ⟨"/first/basic.conf"⟩ :: configured ++ standard) ∧
    (routed none "models").1.modelPaths =
      [⟨"/first/basic.conf"⟩, ⟨"/conf/models"⟩, ⟨"/builtin"⟩, ⟨"/usr/share/allpix/models"⟩] ∧
    (routed none "models nowhere").2.2 = .error (.settings (.invalidValue "/conf/geometry.conf"
      "model_paths" (.absentPath ⟨"/conf/nowhere"⟩))) ∧
    (routed none "models nowhere").1.modelPaths = [⟨"/first/basic.conf"⟩] := by
  refine ⟨?_, ?_, by decide +kernel, ?_⟩
  · obtain ⟨⟨accepted, rest, made, parts, _, _, _, gains, errors, kept, _⟩, _⟩ :=
      Setup.load_leaves silence.generator Seeder.next ⟨files "", ⟨"/none"⟩, none⟩
        (s := withPath) rfl [plain, thick, plain, twin]
        ((Section.new "" none).set "model_paths" "/absent") ⟨0⟩
    have failed : twice.2.2 = .error (.geometry (.detectorExists "plain")) := by rfl
    refine ⟨failed, kept _ failed, by decide +kernel, gains.models, accepted, rest, ?_, parts⟩
    rcases (errors _).mp failed with stopped | ⟨_, cause, _, other⟩
    · exact stopped
    · cases other
  · obtain ⟨⟨_, _, _, _, _, _, _, _, _, _, added⟩, _⟩ :=
      Setup.load_leaves silence.generator Seeder.next (offering ownDirectories)
        (s := withPath) rfl [plain, thick] (listing "models, /data") ⟨0⟩
    have done : (routed ownDirectories "models, /data").2.2 = .ok () := by
      decide +kernel
    exact ⟨done, by decide +kernel, added done⟩
  · obtain ⟨⟨_, _, _, _, _, _, _, _, _, kept, _⟩, _⟩ :=
      Setup.load_leaves silence.generator Seeder.next (offering none) (s := withPath) rfl
        [plain, thick] (listing "models nowhere") ⟨0⟩
    have failed : (routed none "models nowhere").2.2 = .error (.settings (.invalidValue
        "/conf/geometry.conf" "model_paths" (.absentPath ⟨"/conf/nowhere"⟩))) := by
      decide +kernel
    exact ⟨failed, kept _ failed⟩

end Sample

end DetectorGeometry
