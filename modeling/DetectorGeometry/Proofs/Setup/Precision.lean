import DetectorGeometry.Proofs.Settings.Quantity
import DetectorGeometry.Proofs.Setup.Placing
import DetectorGeometry.Proofs.Space.Doubles

namespace DetectorGeometry

namespace Vec3

def IsPrecise (v : Vec3 Float) : Prop :=
  ∀ axis, (v.along axis).isFinite = true ∧ ¬ v.along axis < 0

theorem IsPrecise.of_equal {v w : Vec3 Float} (same : v.equal w = true) (precise : w.IsPrecise) :
    v.IsPrecise := by
  intro axis
  obtain ⟨a, lies, lies'⟩ := Double.exists_region_of_beq (equal_iff_beq.mp same axis)
  have weighs := Double.finite_not_neg_iff.mp (precise axis)
  obtain ⟨b, region, bounds⟩ := Double.finite_nonneg_iff.mp weighs
  cases lies'.symm.trans region
  exact Double.finite_not_neg_iff.mpr (Double.finite_nonneg_iff.mpr ⟨a, lies, bounds⟩)

end Vec3

theorem Reading.isNumber_of_triple {text : String} {v : Vec3 Float}
    (accepted : triple text = .ok v) : v.IsNumber := by
  obtain ⟨elements, _, accepted⟩ := Outcome.bind_eq_ok.mp accepted
  split at accepted
  case h_2 => cases accepted
  case h_1 =>
    obtain ⟨x, xReads, accepted⟩ := Outcome.bind_eq_ok.mp accepted
    obtain ⟨y, yReads, accepted⟩ := Outcome.bind_eq_ok.mp accepted
    obtain ⟨z, zReads, accepted⟩ := Outcome.bind_eq_ok.mp accepted
    cases accepted
    intro axis
    cases axis with
    | x => exact Quantity.isNaN_of_read xReads
    | y => exact Quantity.isNaN_of_read yReads
    | z => exact Quantity.isNaN_of_read zReads

theorem Vec3.isNumber_zero : (zero : Vec3 Float).IsNumber := by
  intro axis
  cases axis <;> decide +kernel

theorem Section.isNumber_of_getD {s : Section} {key : String} {v : Vec3 Float}
    (accepted : s.getD .triple key .zero = .ok v) : v.IsNumber := by
  cases getD_eq_ok.mp accepted with
  | read _ reads => exact Reading.isNumber_of_triple reads
  | absent _ => exact Vec3.isNumber_zero

namespace Misalignment

theorem isPrecision_iff {x : Float} : isPrecision x = true ↔ x.isFinite = true ∧ ¬ x < 0 := by
  rw [Double.finite_not_neg_iff, isPrecision, Bool.and_eq_true, decide_eq_true_iff]
  exact Iff.rfl

theorem all_isPrecision_iff {v : Vec3 Float} : v.all isPrecision = true ↔ v.IsPrecise := by
  rw [Vec3.all_iff_along]
  exact forall_congr' fun _ => isPrecision_iff

section Made

variable {position orientation : Vec3 Float}

theorem make_of_precise (precise : position.IsPrecise) (precise' : orientation.IsPrecise) :
    make position orientation = .ok ⟨position, orientation⟩ :=
  make_eq_ok.mpr ⟨all_isPrecision_iff.mpr precise, all_isPrecision_iff.mpr precise', rfl⟩

theorem make_of_position (bad : ¬ position.IsPrecise) :
    make position orientation = .error ⟨position⟩ := by
  rw [make, Bool.eq_false_iff.mpr (mt all_isPrecision_iff.mp bad)]
  rfl

theorem make_of_orientation (precise : position.IsPrecise) (bad : ¬ orientation.IsPrecise) :
    make position orientation = .error ⟨orientation⟩ := by
  rw [make, all_isPrecision_iff.mpr precise,
    Bool.eq_false_iff.mpr (mt all_isPrecision_iff.mp bad)]
  rfl

end Made

section Read

variable {s : Section} {position orientation : Vec3 Float}
  (positionReads : s.getD .triple "alignment_precision_position" .zero = .ok position)
  (orientationReads : s.getD .triple "alignment_precision_orientation" .zero = .ok orientation)

include positionReads orientationReads

theorem ofSection_of_ok {m : Misalignment Float} (made : make position orientation = .ok m) :
    ofSection s = .ok m := by
  rw [ofSection, positionReads, orientationReads]
  simp only [bind, Except.bind, made]

theorem ofSection_of_error {fault : PrecisionFault Float}
    (refused : make position orientation = .error fault) :
    ofSection (α := Float) s =
      .error (s.invalid (if fault.precision.equal position then "alignment_precision_position"
        else "alignment_precision_orientation") .precision) := by
  rw [ofSection, positionReads, orientationReads]
  simp only [bind, Except.bind, refused]

theorem ofSection_of_precise (precise : position.IsPrecise) (precise' : orientation.IsPrecise) :
    ofSection s = .ok ⟨position, orientation⟩ :=
  ofSection_of_ok positionReads orientationReads (make_of_precise precise precise')

theorem ofSection_of_position (bad : ¬ position.IsPrecise) :
    ofSection (α := Float) s = .error (s.invalid "alignment_precision_position" .precision) := by
  have same := (Section.isNumber_of_getD positionReads).equal_self
  rw [ofSection_of_error positionReads orientationReads (make_of_position bad), if_pos same]

theorem ofSection_of_orientation (precise : position.IsPrecise) (bad : ¬ orientation.IsPrecise) :
    ofSection (α := Float) s = .error (s.invalid "alignment_precision_orientation" .precision) := by
  have different : ¬ orientation.equal position = true := fun same => bad (precise.of_equal same)
  rw [ofSection_of_error positionReads orientationReads (make_of_orientation precise bad),
    if_neg different]

end Read

/-- Precisions are given unchanged if all six numbers are finite and not negative. Otherwise the
position is blamed if one of its own numbers is bad, and the orientation if it alone has a bad one.
-/
theorem blames_key {s : Section} {position orientation : Vec3 Float}
    (positionReads : s.getD .triple "alignment_precision_position" .zero = .ok position)
    (orientationReads : s.getD .triple "alignment_precision_orientation" .zero = .ok orientation) :
    ((∃ m : Misalignment Float, ofSection s = .ok m) ↔
      position.IsPrecise ∧ orientation.IsPrecise) ∧
    (∀ m : Misalignment Float, ofSection s = .ok m →
      m.position = position ∧ m.orientation = orientation) ∧
    (¬ position.IsPrecise → ofSection (α := Float) s =
      .error (s.invalid "alignment_precision_position" .precision)) ∧
    (position.IsPrecise → ¬ orientation.IsPrecise → ofSection (α := Float) s =
      .error (s.invalid "alignment_precision_orientation" .precision)) := by
  have blamed := ofSection_of_position positionReads orientationReads
  have blamed' := ofSection_of_orientation positionReads orientationReads
  have accepted : ∀ m : Misalignment Float, ofSection s = .ok m →
      position.IsPrecise ∧ orientation.IsPrecise := by
    intro m reads
    by_cases precise : position.IsPrecise
    · by_cases precise' : orientation.IsPrecise
      · exact ⟨precise, precise'⟩
      · cases reads.symm.trans (blamed' precise precise')
    · cases reads.symm.trans (blamed precise)
  have fine := ofSection_of_precise positionReads orientationReads
  refine ⟨⟨fun ⟨m, reads⟩ => accepted m reads, fun ⟨precise, precise'⟩ =>
    ⟨_, fine precise precise'⟩⟩, fun m reads => ?_, blamed, blamed'⟩
  obtain ⟨precise, precise'⟩ := accepted m reads
  cases reads.symm.trans (fine precise precise')
  exact ⟨rfl, rfl⟩

end Misalignment

namespace Sample

def overflown : Section :=
  ((Section.new "dut" none).set "alignment_precision_position" "1um -0 1e400").set
    "alignment_precision_orientation" "1um -0 1e400"

def backwards : Section :=
  ((Section.new "dut" none).set "alignment_precision_position" "0 1um 2um").set
    "alignment_precision_orientation" "-0 1um -2um"

def vanishing : Section :=
  (Section.new "dut" none).set "alignment_precision_position" "-0 1e-400 1mm"

theorem precisions_blamed :
    Misalignment.ofSection (α := Float) overflown =
      .error (overflown.invalid "alignment_precision_position" .precision) ∧
    Misalignment.ofSection (α := Float) backwards =
      .error (backwards.invalid "alignment_precision_orientation" .precision) ∧
    ∃ m : Misalignment Float, Misalignment.ofSection vanishing = .ok m := by
  have reads (s : Section) (key : String) (precise : Bool)
      (shown : (s.getD (β := Vec3 Float) .triple key .zero).toOption.map
        (·.all Misalignment.isPrecision) = some precise) :
      ∃ v : Vec3 Float, s.getD .triple key .zero = .ok v ∧ (v.IsPrecise ↔ precise = true) := by
    obtain ⟨v, reads, same⟩ := Outcome.exists_of_map_toOption shown
    exact ⟨v, reads, same ▸ Misalignment.all_isPrecision_iff.symm⟩
  refine ⟨?_, ?_, ?_⟩
  · obtain ⟨_, position, bad⟩ := reads overflown "alignment_precision_position" false
      (by decide +kernel)
    obtain ⟨_, orientation, _⟩ := reads overflown "alignment_precision_orientation" false
      (by decide +kernel)
    exact (Misalignment.blames_key position orientation).2.2.1 (by simp [bad])
  · obtain ⟨_, position, precise⟩ := reads backwards "alignment_precision_position" true
      (by decide +kernel)
    obtain ⟨_, orientation, bad⟩ := reads backwards "alignment_precision_orientation" false
      (by decide +kernel)
    exact (Misalignment.blames_key position orientation).2.2.2 (precise.mpr rfl) (by simp [bad])
  · obtain ⟨_, position, precise⟩ := reads vanishing "alignment_precision_position" true
      (by decide +kernel)
    obtain ⟨_, orientation, precise'⟩ := reads vanishing "alignment_precision_orientation" true
      (by decide +kernel)
    exact (Misalignment.blames_key position orientation).1.mpr ⟨precise.mpr rfl, precise'.mpr rfl⟩

end Sample

end DetectorGeometry
