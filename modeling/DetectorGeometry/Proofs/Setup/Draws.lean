import DetectorGeometry.Proofs.Scalar.Exact
import DetectorGeometry.Proofs.Setup.Placing
import DetectorGeometry.Proofs.Setup.Registrations
import DetectorGeometry.Setup.Generator

/-!
Who gets which random draws. A generator is moved on by every offset, and offsets at any precision
take one draw each; hence sections get the same draws whatever the others say, and loading with the
generator is loading with draws that are looked up by their number (`Setup.loadWith_eq_load`).
Placements then are the configured ones, shifted by precision times draw (`Setup.placed_by_draws`).
-/
namespace DetectorGeometry

variable {σ γ α : Type}

namespace Placing

variable [Scalar α]

def shifted (c : Placing α) (draws : Vec3 α) : Vec3 α :=
  c.position + Vec3.zipWith (· * ·) c.precision.position draws

def turned (c : Placing α) (draws : Vec3 α) : Vec3 α :=
  c.angles + Vec3.zipWith (· * ·) c.precision.orientation draws

end Placing

theorem Registration.Makes.unique {r : Registration α} {d e : Draft α} (makes : r.Makes d)
    (makes' : r.Makes e) : d = e := by
  cases d
  cases e
  cases makes.name.trans makes'.name.symm
  cases makes.position.trans makes'.position.symm
  cases makes.orientation.trans makes'.orientation.symm
  cases makes.type.symm.trans makes'.type
  rfl

section Plays

variable [Scalar α]

/-- The generator reads draws one after another: at any precision an offset takes the next one.
`stateAt` is the state in front of the draw with a number. -/
structure Generator.Plays (gen : Generator γ α) (noise : Noise α)
    (stateAt : UInt64 → Nat → γ) : Prop where
  starts : ∀ seed, gen.seeded seed = stateAt seed 0
  offset : ∀ deviation, Misalignment.isPrecision deviation = true → ∀ seed number,
    gen.offset deviation (stateAt seed number) =
      (Misalignment.offset deviation (noise.draw seed number), stateAt seed (number + 1))

theorem Noise.plays_generator (noise : Noise α) :
    noise.generator.Plays noise fun seed number => (seed, number) := by
  refine ⟨fun seed => rfl, fun deviation precise seed number => ?_⟩
  rw [Generator.offset, generator]
  simp only [precise, if_true]

namespace Generator

variable {gen : Generator γ α} {noise : Noise α} {stateAt : UInt64 → Nat → γ}

theorem Plays.offsets (plays : gen.Plays noise stateAt) {precision : Vec3 α}
    (precise : precision.all Misalignment.isPrecision = true) (seed : UInt64) (triple : Nat) :
    gen.offsets precision (stateAt seed (3 * triple)) =
      (Vec3.zipWith Misalignment.offset precision (noise.triple seed triple),
        stateAt seed (3 * (triple + 1))) := by
  obtain ⟨precise, z⟩ := Bool.and_eq_true_iff.mp precise
  obtain ⟨x, y⟩ := Bool.and_eq_true_iff.mp precise
  simp only [Generator.offsets, plays.offset _ x, plays.offset _ y, plays.offset _ z]
  rfl

variable [Trigonometry α]

theorem Plays.loadSectionWith (plays : gen.Plays noise stateAt) (seed : UInt64) (number : Nat)
    (s : Setup α) (settings : Section) :
    s.loadSectionWith gen (stateAt seed (6 * number)) settings =
      (s.loadSection noise seed number settings).map id
        (·.map fun _ => stateAt seed (6 * (number + 1))) := by
  rw [Setup.loadSectionWith, Setup.loadSection]
  cases configured : settings.placing (α := α) with
  | error e => rfl
  | ok c =>
    obtain ⟨position, orientation⟩ := (Section.placing_eq_ok.mp configured).2
    have shift := plays.offsets position seed (2 * number)
    have turn := plays.offsets orientation seed (2 * number + 1)
    rw [show 3 * (2 * number) = 6 * number by omega] at shift
    rw [show 3 * (2 * number + 1 + 1) = 6 * (number + 1) by omega] at turn
    simp only [shift, turn]
    rfl

theorem Plays.loadSectionsWith (plays : gen.Plays noise stateAt) (seed : UInt64)
    (sections : List Section) (number : Nat) (s : Setup α) :
    s.loadSectionsWith gen (stateAt seed (6 * number)) sections =
      s.loadSections noise seed number sections := by
  induction sections generalizing number s with
  | nil => rfl
  | cons settings rest ih =>
    rw [Setup.loadSectionsWith, Setup.loadSections, plays.loadSectionWith]
    obtain ⟨t, result⟩ := s.loadSection noise seed number settings
    cases result with
    | error e => rfl
    | ok _ => exact ih (number + 1) t

end Generator

end Plays

namespace Setup

theorem ok_of_finishLoad {env : Environment} {global : Section} {seeder : σ}
    {r : Setup α × Except Error Unit} (done : (finishLoad env global seeder r).2.2 = .ok ()) :
    r.2 = .ok () := by
  obtain ⟨t, result⟩ := r
  cases result with
  | error e => cases done
  | ok _ => rfl

variable [Scalar α] [Trigonometry α]

/-- Loading with a generator is loading with the draws that it reads. -/
theorem loadWith_eq_load {gen : Generator γ α} {noise : Noise α} {stateAt : UInt64 → Nat → γ}
    (plays : gen.Plays noise stateAt) (env : Environment) (s : Setup α) (sections : List Section)
    (global : Section) (seeder : Seeder) :
    s.loadWith gen Seeder.next env sections global seeder =
      s.load env noise sections global seeder := by
  have registered := plays.loadSectionsWith seeder.next.1 sections 0 s
  rw [← plays.starts] at registered
  rw [loadWith, load]
  cases s.ensureOpen .detector with
  | error e => rfl
  | ok _ => exact congrArg (finishLoad env global seeder.next.2) registered

/-- On any scalars, looking draws up by their number is reading them one after another. -/
theorem load_eq_loadWith_generator (env : Environment) (noise : Noise α) (s : Setup α)
    (sections : List Section) (global : Section) (seeder : Seeder) :
    s.load env noise sections global seeder =
      s.loadWith noise.generator Seeder.next env sections global seeder :=
  (loadWith_eq_load noise.plays_generator env s sections global seeder).symm

def Loads (gen : Generator γ α) (seed : UInt64) (s : Setup α) (sections : List Section)
    (t : Setup α) : Prop :=
  ∃ (σ : Type) (next : σ → UInt64 × σ) (env : Environment) (global : Section) (seeder later : σ),
    (next seeder).1 = seed ∧
      s.loadWith gen next env sections global seeder = (t, later, .ok ())

theorem loads_of_ok {gen : Generator γ α} {next : σ → UInt64 × σ} {env : Environment}
    {s : Setup α} {sections : List Section} {global : Section} {seeder : σ}
    (accepted : (s.loadWith gen next env sections global seeder).2.2 = .ok ()) :
    Loads gen (next seeder).1 s sections (s.loadWith gen next env sections global seeder).1 :=
  ⟨σ, next, env, global, seeder, _, rfl, Prod.ext rfl (Prod.ext rfl accepted)⟩

theorem Loads.sections {gen : Generator γ α} {seed : UInt64} {s t : Setup α}
    {sections : List Section} (loads : s.Loads gen seed sections t) :
    (s.loadSectionsWith gen (gen.seeded seed) sections).2 = .ok () ∧
      t.drafts = (s.loadSectionsWith gen (gen.seeded seed) sections).1.drafts := by
  obtain ⟨σ, next, env, global, seeder, later, rfl, loaded⟩ := loads
  rw [loadWith] at loaded
  split at loaded
  case h_1 => cases loaded
  case h_2 =>
    have finished : finishLoad env global (next seeder).2
        (s.loadSectionsWith gen (gen.seeded (next seeder).1) sections) =
          (t, later, .ok ()) := loaded
    have drafts := finishLoad_keeps (·.drafts =
      (s.loadSectionsWith gen (gen.seeded (next seeder).1) sections).1.drafts) env global
      (next seeder).2 rfl fun _ => rfl
    rw [finished] at drafts
    exact ⟨ok_of_finishLoad (congrArg (·.2.2) finished), drafts⟩

theorem accepted_of_ok {noise : Noise α} {seed : UInt64} {sections : List Section} {number : Nat}
    {s : Setup α} (loaded : (s.loadSections noise seed number sections).2 = .ok ()) :
    List.Forall₂ (fun (entry : Section × Nat) r => r.settings = entry.1 ∧
        entry.1.placement noise seed entry.2 = .ok (r.position, r.orientation))
      (sections.zipIdx number) (s.accepted noise seed number sections) := by
  induction sections generalizing number s with
  | nil => exact .nil
  | cons settings rest ih =>
    rw [loadSections] at loaded
    rw [accepted, List.zipIdx_cons]
    cases placed : settings.placement noise seed number with
    | error e =>
      rw [loadSection_of_error placed] at loaded
      cases loaded
    | ok place =>
      rw [loadSection_of_ok placed] at loaded
      rcases (s.atomic_register settings place.1 place.2).cases with
        ⟨e, refused⟩ | ⟨next, _, registered⟩
      · rw [refused] at loaded
        cases loaded
      · rw [registered] at loaded
        simp only [registered]
        exact .cons ⟨rfl, placed⟩ (ih loaded)

theorem exists_draft_of_ok {noise : Noise α} {seed : UInt64} {sections : List Section}
    {s : Setup α} (loaded : (s.loadSections noise seed 0 sections).2 = .ok ()) :
    let drafts := (s.loadSections noise seed 0 sections).1.drafts
    drafts.length = s.drafts.length + sections.length ∧
      ∀ i settings, sections[i]? = some settings → ∃ draft position orientation,
        drafts[s.drafts.length + i]? = some draft ∧
        settings.placement noise seed i = .ok (position, orientation) ∧
        Registration.Makes ⟨settings, position, orientation⟩ draft := by
  obtain ⟨made, all, fits⟩ := s.adds_loadSections noise seed sections 0
  have placed := accepted_of_ok loaded
  have lengths : sections.length = made.length := by
    rw [← List.length_zipIdx, placed.length_eq, fits.length_eq]
  refine ⟨by rw [all, List.length_append, lengths], fun i settings found => ?_⟩
  obtain ⟨inSections, rfl⟩ := List.getElem?_eq_some_iff.mp found
  have inMade : i < made.length := lengths ▸ inSections
  have inAccepted : i < (s.accepted noise seed 0 sections).length := fits.length_eq ▸ inMade
  have makes := fits.get inAccepted inMade
  obtain ⟨same, placement⟩ := placed.get (by simpa using inSections) inAccepted
  simp only [List.get_eq_getElem, List.getElem_zipIdx, Nat.zero_add] at same placement makes
  refine ⟨made[i], _, _, ?_, placement, ?_⟩
  · rw [all, List.getElem?_append_right (Nat.le_add_right _ _), Nat.add_sub_cancel_left]
    exact List.getElem?_eq_getElem inMade
  · rw [← same]
    exact makes

end Setup

section Exact

variable [ExactScalar α]

namespace Misalignment

theorem offset_eq_mul (deviation draw : α) : offset deviation draw = deviation * draw := zero_add _

def Keeps (precision before after : Vec3 α) : Prop :=
  (precision.x = 0 → after.x = before.x) ∧ (precision.y = 0 → after.y = before.y) ∧
    (precision.z = 0 → after.z = before.z)

theorem keeps_displaced (value precision draws : Vec3 α) :
    Keeps precision value (value + Vec3.zipWith (· * ·) precision draws) := by
  have still : ∀ a b c : α, b = 0 → a + b * c = a := by
    rintro a _ c rfl
    rw [zero_mul, add_zero]
  exact ⟨still _ _ _, still _ _ _, still _ _ _⟩

theorem displace_eq (value precision draws : Vec3 α) :
    displace value precision draws = value + Vec3.zipWith (· * ·) precision draws := by
  simp only [displace, Vec3.zipWith, offset_eq_mul]

end Misalignment

namespace Generator

/-- What is known of the normal distribution: at a finite deviation that is not negative, a number
is the deviation times a standard normal draw, which is taken in a way that does not depend on the
deviation. `standard` takes such a draw. -/
def Samples (gen : Generator γ α) (standard : γ → α × γ) : Prop :=
  ∀ deviation : α, Scalar.isFinite deviation = true → 0 ≤ deviation →
    gen.normal? deviation = some fun state =>
      (deviation * (standard state).1, (standard state).2)

def stateAt (gen : Generator γ α) (standard : γ → α × γ) (seed : UInt64) (number : Nat) : γ :=
  (fun state => (standard state).2)^[number] (gen.seeded seed)

def draws (gen : Generator γ α) (standard : γ → α × γ) (seed : UInt64) (number : Nat) : α :=
  (standard (gen.stateAt standard seed number)).1

variable {gen : Generator γ α} {standard : γ → α × γ}

theorem Samples.plays (samples : gen.Samples standard) :
    gen.Plays ⟨gen.draws standard⟩ (gen.stateAt standard) := by
  refine ⟨fun seed => rfl, fun deviation precise seed number => ?_⟩
  obtain ⟨finite, nonnegative⟩ := Bool.and_eq_true_iff.mp precise
  rw [offset, samples deviation finite (of_decide_eq_true nonnegative),
    Misalignment.offset_eq_mul, stateAt,
    stateAt, Function.iterate_succ_apply']
  rfl

end Generator

variable [Trigonometry α]

theorem Section.placement_eq_ok {draw : UInt64 → Nat → α} {seed : UInt64} {number : Nat}
    {settings : Section} {position : Vec3 α} {orientation : Matrix3 α}
    (placed : settings.placement ⟨draw⟩ seed number = .ok (position, orientation)) :
    ∃ c, settings.Describes c ∧
      position = c.shifted ⟨draw seed (6 * number), draw seed (6 * number + 1),
        draw seed (6 * number + 2)⟩ ∧
      orientation = c.mode.rotation (c.turned ⟨draw seed (6 * number + 3),
        draw seed (6 * number + 4), draw seed (6 * number + 5)⟩) := by
  obtain ⟨c, configured, place⟩ := Outcome.map_eq_ok.mp placed
  obtain ⟨rfl, rfl⟩ := Prod.mk.inj place
  refine ⟨c, (placing_eq_ok.mp configured).1, ?_, ?_⟩
  · rw [Misalignment.displace_eq, Placing.shifted, Noise.triple,
      show 3 * (2 * number) = 6 * number by omega]
  · rw [Misalignment.displace_eq, Placing.turned, Noise.triple,
      show 3 * (2 * number + 1) = 6 * number + 3 by omega]

namespace Setup

variable {gen : Generator γ α} {standard : γ → α × γ}

theorem Loads.exists_draft (samples : gen.Samples standard) {seed : UInt64} {s t : Setup α}
    {sections : List Section} (loads : s.Loads gen seed sections t) :
    t.drafts.length = s.drafts.length + sections.length ∧
      ∀ i settings, sections[i]? = some settings → ∃ draft position orientation,
        t.drafts[s.drafts.length + i]? = some draft ∧
        settings.placement ⟨gen.draws standard⟩ seed i = .ok (position, orientation) ∧
        Registration.Makes ⟨settings, position, orientation⟩ draft := by
  obtain ⟨loaded, drafts⟩ := loads.sections
  rw [samples.plays.starts, ← Nat.mul_zero 6, samples.plays.loadSectionsWith] at loaded drafts
  rw [drafts]
  exact exists_draft_of_ok loaded

/-- Loading with a generator is loading with the draws of its seed, of which the section with the
number `i` takes those from `6 * i` to `6 * i + 5`, whatever the others say. -/
theorem placed_by_draws (samples : gen.Samples standard) :
    let z := gen.draws standard
    (∀ env (s : Setup α) sections global seeder,
      s.loadWith gen Seeder.next env sections global seeder =
        s.load env ⟨z⟩ sections global seeder) ∧
    (∀ seed s sections t, Loads gen seed s sections t →
      t.drafts.length = s.drafts.length + sections.length ∧
      ∀ i settings, sections[i]? = some settings → ∃ c draft,
        settings.Describes c ∧ t.drafts[s.drafts.length + i]? = some draft ∧
        draft.name = settings.name ∧
        draft.position = c.shifted ⟨z seed (6 * i), z seed (6 * i + 1), z seed (6 * i + 2)⟩ ∧
        draft.orientation = c.mode.rotation
          (c.turned ⟨z seed (6 * i + 3), z seed (6 * i + 4), z seed (6 * i + 5)⟩)) ∧
    (∀ seed s s' sections sections' t t', Loads gen seed s sections t →
      Loads gen seed s' sections' t' →
      ∀ i settings, sections[i]? = some settings → sections'[i]? = some settings →
        ∃ draft, t.drafts[s.drafts.length + i]? = some draft ∧
          t'.drafts[s'.drafts.length + i]? = some draft) ∧
    ∀ (c : Placing α) draws,
      Misalignment.Keeps c.precision.position c.position (c.shifted draws) ∧
      Misalignment.Keeps c.precision.orientation c.angles (c.turned draws) := by
  refine ⟨fun env s => loadWith_eq_load samples.plays env s, ?_, ?_, fun c draws =>
    ⟨Misalignment.keeps_displaced .., Misalignment.keeps_displaced ..⟩⟩
  · intro seed s sections t loads
    obtain ⟨lengths, drafts⟩ := loads.exists_draft samples
    refine ⟨lengths, fun i settings found => ?_⟩
    obtain ⟨draft, position, orientation, inDrafts, placed, makes⟩ := drafts i settings found
    obtain ⟨c, describes, shifted, turned⟩ := Section.placement_eq_ok placed
    exact ⟨c, draft, describes, inDrafts, makes.name, makes.position.trans shifted,
      makes.orientation.trans turned⟩
  · intro seed s s' sections sections' t t' loads loads' i settings found found'
    obtain ⟨draft, position, orientation, inDrafts, placed, makes⟩ :=
      (loads.exists_draft samples).2 i settings found
    obtain ⟨draft', position', orientation', inDrafts', placed', makes'⟩ :=
      (loads'.exists_draft samples).2 i settings found'
    obtain ⟨rfl, rfl⟩ := Prod.mk.inj (Except.ok.inj (placed.symm.trans placed'))
    exact ⟨draft, inDrafts, makes.unique makes' ▸ inDrafts'⟩

end Setup

end Exact

namespace Sample

instance smallAngles : Trigonometry ℚ := ⟨fun x => x - x ^ 3 / 6, fun x => 1 - x ^ 2 / 2⟩

def rising : Noise ℚ where
  draw seed number := number - (seed.toNat % 8 : Nat)

def nextRise (state : UInt64 × Nat) : ℚ × UInt64 × Nat :=
  (rising.draw state.1 state.2, state.1, state.2 + 1)

theorem samples_rising : rising.generator.Samples nextRise := by
  intro deviation finite nonnegative
  have precise : Misalignment.isPrecision deviation = true :=
    Bool.and_eq_true_iff.mpr ⟨finite, decide_eq_true nonnegative⟩
  simp only [Noise.generator, precise, if_true, Misalignment.offset_eq_mul]
  rfl

def exact : Section := detector "first" [("type", "basic"), ("position", "0 0 1mm")]

def exactPlacing : Placing ℚ := ⟨⟨0, 0, 1⟩, ⟨0, 0, 0⟩, ⟨⟨0, 0, 0⟩, ⟨0, 0, 0⟩⟩, .xyz⟩

def rough : Section := detector "first" [("type", "basic"), ("orientation_mode", "zxz"),
  ("alignment_precision_position", "1mm 0 2um")]

def tilted : Section := detector "second" [("type", "basic"), ("position", "1mm 2mm 3mm"),
  ("orientation", "100mrad 0 200mrad"), ("orientation_mode", "zyx"),
  ("alignment_precision_position", "500um 0 2mm"),
  ("alignment_precision_orientation", "50mrad 0 25mrad")]

def loaded (first : Section) : Setup ℚ × Seeder × Except Error Unit :=
  Setup.empty.loadWith rising.generator Seeder.next ⟨files "", ⟨"/none"⟩, none⟩ [first, tilted]
    (.new "" none) ⟨0⟩

def tiltedPlacing : Placing ℚ :=
  ⟨⟨1, 2, 3⟩, ⟨1 / 10, 0, 1 / 5⟩, ⟨⟨1 / 2, 0, 2⟩, ⟨1 / 20, 0, 1 / 40⟩⟩, .zyx⟩

theorem tilted_describes : tilted.Describes tiltedPlacing := by
  have reads : tilted.placing = .ok tiltedPlacing := by decide +kernel
  exact (Section.placing_eq_ok.mp reads).1

theorem tilted_behind_another :
    ∃ t t', Setup.Loads rising.generator (Seeder.next ⟨0⟩).1 .empty [exact, tilted] t ∧
      Setup.Loads rising.generator (Seeder.next ⟨0⟩).1 .empty [rough, tilted] t' ∧
      (∃ draft, t.drafts[1]? = some draft ∧ t'.drafts[1]? = some draft ∧
        draft.position = ⟨1 / 2, 2, 5⟩ ∧
        draft.orientation =
          ⟨⟨49 / 50, -(149 / 750 * (191 / 200)), 149 / 750 * (591 / 2000)⟩,
           ⟨149 / 750, 49 / 50 * (191 / 200), -(49 / 50 * (591 / 2000))⟩,
           ⟨0, 591 / 2000, 191 / 200⟩⟩) ∧
      ∃ draft, t.drafts[0]? = some draft ∧ draft.position = ⟨0, 0, 1⟩ := by
  have loads : ∀ first, (loaded first).2.2.isOk = true →
      Setup.Loads rising.generator (Seeder.next ⟨0⟩).1 .empty [first, tilted] (loaded first).1 := by
    intro first isOk
    obtain ⟨_, accepted⟩ := Outcome.isOk_iff.mp isOk
    exact Setup.loads_of_ok accepted
  have first := loads exact (by decide +kernel)
  have other := loads rough (by decide +kernel)
  obtain ⟨_, placed, same, keeps⟩ := Setup.placed_by_draws samples_rising
  refine ⟨_, _, first, other, ?_, ?_⟩
  · obtain ⟨draft, inDrafts, inOthers⟩ := same _ _ _ _ _ _ _ first other 1 tilted rfl rfl
    obtain ⟨c, draft', describes, inDrafts', _, position, orientation⟩ :=
      (placed _ _ _ _ first).2 1 tilted rfl
    cases describes.unique tilted_describes
    cases inDrafts.symm.trans inDrafts'
    refine ⟨draft, inDrafts, inOthers, ?_, ?_⟩
    · rw [position]
      decide +kernel
    · rw [orientation]
      decide +kernel
  · obtain ⟨c, draft, describes, inDrafts, _, position, _⟩ :=
      (placed _ _ _ _ first).2 0 exact rfl
    refine ⟨draft, inDrafts, ?_⟩
    have reads : exact.placing = .ok exactPlacing := by decide +kernel
    cases describes.unique (Section.placing_eq_ok.mp reads).1
    obtain ⟨x, y, z⟩ := (keeps exactPlacing ⟨_, _, _⟩).1
    rw [position]
    exact Vec3.ext (x rfl) (y rfl) (z rfl)

end Sample

end DetectorGeometry
