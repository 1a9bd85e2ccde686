import DetectorGeometry.Proofs.Outcome
import DetectorGeometry.Proofs.Settings.Values
import DetectorGeometry.Setup.Placing

namespace DetectorGeometry

variable {α : Type}

theorem AngleConvention.ofKeyword?_eq_some {keyword : String} {mode : AngleConvention} :
    ofKeyword? keyword = some mode ↔ mode.keyword = keyword := by
  constructor
  · intro known
    simpa using List.find?_some known
  · rintro rfl
    exact ofKeyword?_keyword mode

theorem AngleConvention.ofKeyword?_eq_none {keyword : String} :
    ofKeyword? keyword = none ↔ ∀ mode : AngleConvention, mode.keyword ≠ keyword := by
  simp only [Option.eq_none_iff_forall_ne_some, ne_eq, ofKeyword?_eq_some]

variable [Scalar α]

def Placing.IsPrecise (c : Placing α) : Prop :=
  c.precision.position.all Misalignment.isPrecision = true ∧
    c.precision.orientation.all Misalignment.isPrecision = true

/-- What a section says about the place of its detector, key by key. -/
structure Section.Describes (settings : Section) (c : Placing α) : Prop where
  position : settings.Gives .triple "position" ⟨0, 0, 0⟩ c.position
  angles : settings.Gives .triple "orientation" ⟨0, 0, 0⟩ c.angles
  mode : settings.Gives .string "orientation_mode" "xyz" c.mode.keyword
  positionPrecision :
    settings.Gives .triple "alignment_precision_position" ⟨0, 0, 0⟩ c.precision.position
  anglePrecision :
    settings.Gives .triple "alignment_precision_orientation" ⟨0, 0, 0⟩ c.precision.orientation

namespace Misalignment

theorem make_eq_ok {position orientation : Vec3 α} {m : Misalignment α} :
    make position orientation = .ok m ↔
      position.all isPrecision = true ∧ orientation.all isPrecision = true ∧
        m = ⟨position, orientation⟩ := by
  rw [make]
  cases position.all isPrecision <;> cases orientation.all isPrecision <;> simp [eq_comm]

theorem ofSection_eq_ok {settings : Section} {m : Misalignment α} :
    ofSection settings = .ok m ↔
      settings.Gives .triple "alignment_precision_position" .zero m.position ∧
      settings.Gives .triple "alignment_precision_orientation" .zero m.orientation ∧
      m.position.all isPrecision = true ∧ m.orientation.all isPrecision = true := by
  simp only [ofSection, Outcome.bind_eq_ok, ← Section.getD_eq_ok]
  constructor
  · rintro ⟨position, isPosition, orientation, isOrientation, read⟩
    split at read
    case h_1 made =>
      cases read
      obtain ⟨precise, precise', rfl⟩ := make_eq_ok.mp made
      exact ⟨isPosition, isOrientation, precise, precise'⟩
    case h_2 => cases read
  · rintro ⟨isPosition, isOrientation, precise, precise'⟩
    refine ⟨_, isPosition, _, isOrientation, ?_⟩
    rw [make_eq_ok.mpr ⟨precise, precise', rfl⟩]

end Misalignment

namespace Section

theorem placing_eq_ok {settings : Section} {c : Placing α} :
    settings.placing = .ok c ↔ settings.Describes c ∧ c.IsPrecise := by
  simp only [placing, Outcome.bind_eq_ok, getD_eq_ok, Misalignment.ofSection_eq_ok]
  constructor
  · rintro ⟨precision, ⟨shift, turn, precise⟩, position, isPosition, angles, areAngles, keyword,
      isKeyword, read⟩
    split at read
    case h_1 => cases read
    case h_2 mode known =>
      cases read
      rw [← AngleConvention.ofKeyword?_eq_some.mp known] at isKeyword
      exact ⟨⟨isPosition, areAngles, isKeyword, shift, turn⟩, precise⟩
  · rintro ⟨describes, precise⟩
    refine ⟨_, ⟨describes.positionPrecision, describes.anglePrecision, precise⟩, _,
      describes.position, _, describes.angles, _, describes.mode, ?_⟩
    rw [AngleConvention.ofKeyword?_keyword]
    rfl

theorem Describes.unique {settings : Section} {c c' : Placing α} (describes : settings.Describes c)
    (describes' : settings.Describes c') : c = c' := by
  obtain ⟨position, angles, ⟨shift, turn⟩, mode⟩ := c
  obtain ⟨position', angles', ⟨shift', turn'⟩, mode'⟩ := c'
  cases describes.position.unique describes'.position
  cases describes.angles.unique describes'.angles
  cases describes.positionPrecision.unique describes'.positionPrecision
  cases describes.anglePrecision.unique describes'.anglePrecision
  have keywords : mode.keyword = mode'.keyword := describes.mode.unique describes'.mode
  have known := AngleConvention.ofKeyword?_keyword mode
  rw [keywords, AngleConvention.ofKeyword?_keyword] at known
  rw [Option.some.inj known]

end Section

/-- Why a section does not say where its detector stands; the first fault decides. -/
inductive Section.Misplaced (α : Type) [Scalar α] (settings : Section) : SettingsError → Prop where
  | precision {e} (invalid : Misalignment.ofSection (α := α) settings = .error e) :
      Misplaced α settings e
  | position {m : Misalignment α} {e} (precise : Misalignment.ofSection settings = .ok m)
      (invalid : settings.getD (.triple (α := α)) "position" .zero = .error e) :
      Misplaced α settings e
  | orientation {m : Misalignment α} {position : Vec3 α} {e}
      (precise : Misalignment.ofSection settings = .ok m)
      (placed : settings.getD .triple "position" .zero = .ok position)
      (invalid : settings.getD (.triple (α := α)) "orientation" .zero = .error e) :
      Misplaced α settings e
  | mode {m : Misalignment α} {position angles : Vec3 α} {keyword}
      (precise : Misalignment.ofSection settings = .ok m)
      (placed : settings.getD .triple "position" .zero = .ok position)
      (turned : settings.getD .triple "orientation" .zero = .ok angles)
      (read : settings.Gives .string "orientation_mode" "xyz" keyword)
      (unknown : ∀ mode : AngleConvention, mode.keyword ≠ keyword) :
      Misplaced α settings (.invalidValue settings.label "orientation_mode" .angleConvention)

theorem Section.placing_eq_error {settings : Section} {e : SettingsError} :
    settings.placing (α := α) = .error e ↔ settings.Misplaced α e := by
  constructor
  · intro failed
    rcases Outcome.bind_eq_error.mp failed with invalid | ⟨m, precise, failed⟩
    · exact .precision invalid
    rcases Outcome.bind_eq_error.mp failed with invalid | ⟨position, placed, failed⟩
    · exact .position precise invalid
    rcases Outcome.bind_eq_error.mp failed with invalid | ⟨angles, turned, failed⟩
    · exact .orientation precise placed invalid
    rcases Outcome.bind_eq_error.mp failed with unread | ⟨keyword, read, failed⟩
    · exact absurd unread getD_string_ne_error
    split at failed
    case h_1 unknown =>
      cases failed
      exact .mode precise placed turned (getD_eq_ok.mp read)
        (AngleConvention.ofKeyword?_eq_none.mp unknown)
    case h_2 => cases failed
  · intro misplaced
    unfold placing
    cases misplaced with
    | precision invalid => rw [invalid]; rfl
    | position precise invalid => rw [precise, invalid]; rfl
    | orientation precise placed invalid => rw [precise, placed, invalid]; rfl
    | mode precise placed turned read unknown =>
      rw [precise, placed, turned, AngleConvention.keyword, getD_eq_ok.mpr read]
      simp only [bind, Except.bind, AngleConvention.ofKeyword?_eq_none.mpr unknown]
      rfl

theorem Section.exists_placing {settings : Section} :
    (∃ c : Placing α, settings.placing = .ok c) ↔ ∀ e, ¬ settings.Misplaced α e := by
  simp only [← placing_eq_error]
  cases settings.placing (α := α) <;> simp

end DetectorGeometry
