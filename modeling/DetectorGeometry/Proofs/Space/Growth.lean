import DetectorGeometry.Proofs.Space.Doubles

/-!
Boxes grown on doubles. Faces are picked from the coordinates that have been seen, without rounding,
so that a grown box spans the box it started from and all points that were included, in whatever
order and however often (`Box.includePoints_spans`); from the empty box it spans the points alone
(`Box.empty_includePoints_spans`). Boxes that span the same coordinates are equal
(`Box.Spans.equal`), and all corners of a box have the coordinates of its two extreme corners
(`Box.coordinates_corners`).
-/
namespace DetectorGeometry

namespace Scalar

variable {α : Type}

def pick (r : α → α → Prop) [DecidableRel r] (a b : α) : α := if r a b then a else b

section Pick

variable {r : α → α → Prop} [DecidableRel r]

theorem pick_eq_or (a b : α) : pick r a b = a ∨ pick r a b = b := by
  unfold pick
  split
  · exact .inl rfl
  · exact .inr rfl

variable {s : α → Prop} (trans : ∀ ⦃a b c⦄, r a b → r b c → r a c)
  (total : ∀ ⦃a b⦄, s a → s b → r a b ∨ r b a)

include total

theorem pick_before {a b : α} (first : s a) (second : s b) :
    r (pick r a b) a ∧ r (pick r a b) b := by
  have self {a : α} (comparable : s a) : r a a := or_self_iff.mp (total comparable comparable)
  unfold pick
  split
  case isTrue before => exact ⟨self first, before⟩
  case isFalse behind => exact ⟨(total first second).resolve_left behind, self second⟩

include trans

theorem foldl_pick {values : List α} {start : α} (first : s start)
    (others : ∀ value ∈ values, s value) :
    values.foldl (pick r) start ∈ start :: values ∧
      ∀ value ∈ start :: values, r (values.foldl (pick r) start) value := by
  induction values generalizing start with
  | nil =>
    refine ⟨List.mem_cons_self, fun value listed => ?_⟩
    cases List.mem_singleton.mp listed
    exact or_self_iff.mp (total first first)
  | cons value values ih =>
    obtain ⟨second, others⟩ := List.forall_mem_cons.mp others
    obtain ⟨before, before'⟩ := pick_before total first second
    have comparable : s (pick r start value) := by
      rcases pick_eq_or (r := r) start value with kept | taken
      · rwa [kept]
      · rwa [taken]
    obtain ⟨found, least⟩ := ih comparable others
    obtain ⟨least, leastOthers⟩ := List.forall_mem_cons.mp least
    rw [List.foldl_cons]
    constructor
    · rcases List.mem_cons.mp found with picked | found
      · rw [picked]
        rcases pick_eq_or (r := r) start value with kept | taken
        · simp [kept]
        · simp [taken]
      · exact List.mem_cons_of_mem _ (List.mem_cons_of_mem _ found)
    · exact List.forall_mem_cons.mpr ⟨trans least before,
        List.forall_mem_cons.mpr ⟨trans least before', leastOthers⟩⟩

end Pick

end Scalar

namespace Double

variable {values : List Float} {start : Float} (first : start.isNaN = false)
  (others : ∀ value ∈ values, value.isNaN = false)

include first others

theorem isLeast_foldl_lesser :
    IsLeast {a | a ∈ start :: values} (values.foldl Scalar.lesser start) := by
  obtain ⟨found, least⟩ := Scalar.foldl_pick (r := ((· ≤ ·) : Float → Float → Prop))
    (s := fun value => value.isNaN = false) (fun _ _ _ => le_trans) (fun _ _ => le_total)
    first others
  exact ⟨found, least⟩

theorem isGreatest_foldl_greater :
    IsGreatest {a | a ∈ start :: values} (values.foldl Scalar.greater start) := by
  obtain ⟨found, greatest⟩ := Scalar.foldl_pick (r := ((· ≥ ·) : Float → Float → Prop))
    (s := fun value => value.isNaN = false) (fun _ _ _ above above' => le_trans above' above)
    (fun _ _ number number' => le_total number' number) first others
  exact ⟨found, greatest⟩

omit first others

theorem isLeast_of_insert_largest {numbers : Set Float} {value least : Float}
    (member : value ∈ numbers) (finite : value.isFinite = true)
    (isLeast : IsLeast (insert Scalar.largest numbers) least) : IsLeast numbers least := by
  refine ⟨?_, fun other listed => isLeast.2 (.inr listed)⟩
  rcases isLeast.1 with rfl | listed
  · have beyond : Scalar.largest ≤ value := isLeast.2 (.inr member)
    rwa [← eq_largest finite beyond]
  · exact listed

theorem isGreatest_of_insert_neg_largest {numbers : Set Float} {value greatest : Float}
    (member : value ∈ numbers) (finite : value.isFinite = true)
    (isGreatest : IsGreatest (insert (-Scalar.largest) numbers) greatest) :
    IsGreatest numbers greatest := by
  refine ⟨?_, fun other listed => isGreatest.2 (.inr listed)⟩
  rcases isGreatest.1 with rfl | listed
  · have beyond : value ≤ -Scalar.largest := isGreatest.2 (.inr member)
    rwa [← eq_neg_largest finite beyond]
  · exact listed

end Double

namespace Box

def equal {α : Type} [Scalar α] (b c : Box α) : Bool := b.min.equal c.min && b.max.equal c.max

def coordinates (ps : List (Vec3 Float)) (axis : Axis) : Set Float :=
  {a | ∃ p ∈ ps, p.along axis = a}

theorem coordinates_eq (ps : List (Vec3 Float)) (axis : Axis) :
    coordinates ps axis = {a | a ∈ ps.map (·.along axis)} :=
  Set.ext fun _ => List.mem_map.symm

theorem coordinates_cons (p : Vec3 Float) (ps : List (Vec3 Float)) (axis : Axis) :
    coordinates (p :: ps) axis = insert (p.along axis) (coordinates ps axis) := by
  ext a
  simp [coordinates, eq_comm]

/-- On every axis the lower face is at the least coordinate of some points, and the upper face at
the greatest coordinate of others. -/
def Spans (b : Box Float) (lows highs : List (Vec3 Float)) : Prop :=
  ∀ axis, IsLeast (coordinates lows axis) (b.min.along axis) ∧
    IsGreatest (coordinates highs axis) (b.max.along axis)

theorem Spans.equal {b c : Box Float} {lows highs lows' highs' : List (Vec3 Float)}
    (spans : b.Spans lows highs) (spans' : c.Spans lows' highs')
    (same : ∀ axis, coordinates lows axis = coordinates lows' axis)
    (same' : ∀ axis, coordinates highs axis = coordinates highs' axis) : b.equal c = true := by
  rw [Box.equal, Bool.and_eq_true, Vec3.equal_iff_along, Vec3.equal_iff_along]
  constructor
  · intro axis
    have least := (spans axis).1
    have least' := (spans' axis).1
    rw [same] at least
    exact Double.equal_iff.mpr ⟨least.2 least'.1, least'.2 least.1⟩
  · intro axis
    have greatest := (spans axis).2
    have greatest' := (spans' axis).2
    rw [same'] at greatest
    exact Double.equal_iff.mpr ⟨greatest'.2 greatest.1, greatest.2 greatest'.1⟩

theorem faces_includePoints {α : Type} [Scalar α] (b : Box α) (ps : List (Vec3 α)) (axis : Axis) :
    (b.includePoints ps).min.along axis =
        (ps.map (·.along axis)).foldl Scalar.lesser (b.min.along axis) ∧
      (b.includePoints ps).max.along axis =
        (ps.map (·.along axis)).foldl Scalar.greater (b.max.along axis) := by
  induction ps generalizing b with
  | nil => exact ⟨rfl, rfl⟩
  | cons p ps ih =>
    obtain ⟨low, high⟩ := ih (b.includePoint p)
    have step : (b.includePoint p).min.along axis =
        Scalar.lesser (b.min.along axis) (p.along axis) := Vec3.along_zipWith ..
    have step' : (b.includePoint p).max.along axis =
        Scalar.greater (b.max.along axis) (p.along axis) := Vec3.along_zipWith ..
    rw [step] at low
    rw [step'] at high
    exact ⟨low, high⟩

section Numbers

variable {b : Box Float} {ps qs : List (Vec3 Float)} (low : b.min.IsNumber)
  (high : b.max.IsNumber) (numbers : ∀ p ∈ ps, p.IsNumber)

include low high numbers

theorem includePoints_spans : (b.includePoints ps).Spans (b.min :: ps) (b.max :: ps) := by
  intro axis
  have numbers : ∀ a ∈ ps.map (·.along axis), a.isNaN = false := by
    intro a listed
    obtain ⟨p, member, rfl⟩ := List.mem_map.mp listed
    exact numbers p member axis
  obtain ⟨least, greatest⟩ := faces_includePoints b ps axis
  rw [coordinates_eq, coordinates_eq, least, greatest]
  exact ⟨Double.isLeast_foldl_lesser (low axis) numbers,
    Double.isGreatest_foldl_greater (high axis) numbers⟩

theorem isNumber_includePoints :
    (b.includePoints ps).min.IsNumber ∧ (b.includePoints ps).max.IsNumber := by
  have spans := includePoints_spans low high numbers
  constructor
  · intro axis
    obtain ⟨p, listed, place⟩ := (spans axis).1.1
    exact place ▸ List.forall_mem_cons.mpr ⟨low, numbers⟩ p listed axis
  · intro axis
    obtain ⟨p, listed, place⟩ := (spans axis).2.1
    exact place ▸ List.forall_mem_cons.mpr ⟨high, numbers⟩ p listed axis

theorem includePoints_grows :
    (b.includePoints ps).min ≤ b.min ∧ b.max ≤ (b.includePoints ps).max := by
  have spans := includePoints_spans low high numbers
  constructor
  · exact Vec3.le_iff_along.mpr fun axis => (spans axis).1.2 ⟨b.min, List.mem_cons_self, rfl⟩
  · exact Vec3.le_iff_along.mpr fun axis => (spans axis).2.2 ⟨b.max, List.mem_cons_self, rfl⟩

theorem includePoints_equal (numbers' : ∀ q ∈ qs, q.IsNumber)
    (same : ∀ axis, coordinates ps axis = coordinates qs axis) :
    (b.includePoints ps).equal (b.includePoints qs) = true := by
  apply (includePoints_spans low high numbers).equal (includePoints_spans low high numbers')
  · intro axis
    rw [coordinates_cons, coordinates_cons, same]
  · intro axis
    rw [coordinates_cons, coordinates_cons, same]

end Numbers

theorem isNumber_empty : (empty : Box Float).min.IsNumber ∧ (empty : Box Float).max.IsNumber := by
  constructor
  · intro axis
    cases axis <;> exact Double.isNaN_largest
  · intro axis
    cases axis <;> exact Double.isNaN_neg Double.isNaN_largest

theorem empty_includePoints_spans {ps : List (Vec3 Float)} (some : ps ≠ [])
    (finite : ∀ p ∈ ps, p.IsFinite) : (empty.includePoints ps).Spans ps ps := by
  have spans := includePoints_spans isNumber_empty.1 isNumber_empty.2
    fun p listed => (finite p listed).isNumber
  obtain ⟨p, listed⟩ := List.exists_mem_of_ne_nil ps some
  intro axis
  have low : (empty : Box Float).min.along axis = Scalar.largest := by cases axis <;> rfl
  have high : (empty : Box Float).max.along axis = -Scalar.largest := by cases axis <;> rfl
  obtain ⟨least, greatest⟩ := spans axis
  rw [coordinates_cons, low] at least
  rw [coordinates_cons, high] at greatest
  exact ⟨Double.isLeast_of_insert_largest ⟨p, listed, rfl⟩ (finite p listed axis) least,
    Double.isGreatest_of_insert_neg_largest ⟨p, listed, rfl⟩ (finite p listed axis) greatest⟩

theorem coordinates_corners (center size : Vec3 Float) (axis : Axis) :
    coordinates (corners center size) axis =
      coordinates [center - size.half, center + size.half] axis := by
  ext a
  cases axis <;> simp [coordinates, corners, Vec3.along] <;> tauto

theorem includeBox_eq {α : Type} [Scalar α] (b : Box α) (center size : Vec3 α) :
    b.includeBox center size = b.includePoints [center - size.half, center + size.half] :=
  rfl

/-- All corners of a box make the same box as its two extreme corners. -/
theorem includePoints_corners_equal {b : Box Float} {center size : Vec3 Float}
    (low : b.min.IsNumber) (high : b.max.IsNumber)
    (numbers : ∀ p ∈ corners center size, p.IsNumber) :
    (b.includePoints (corners center size)).equal (b.includeBox center size) = true := by
  have ends : ∀ p ∈ [center - size.half, center + size.half], p.IsNumber := by
    intro p listed axis
    have place : p.along axis ∈ coordinates [center - size.half, center + size.half] axis :=
      ⟨p, listed, rfl⟩
    rw [← coordinates_corners] at place
    obtain ⟨corner, member, same⟩ := place
    exact same ▸ numbers corner member axis
  rw [includeBox_eq]
  exact includePoints_equal low high numbers ends (coordinates_corners center size)

theorem isNumber_of_mem_corners {center size p : Vec3 Float} (finite : center.IsFinite)
    (number : size.IsNumber) (corner : p ∈ corners center size) : p.IsNumber := by
  intro axis
  have place : p.along axis ∈ coordinates (corners center size) axis := ⟨p, corner, rfl⟩
  rw [coordinates_corners] at place
  obtain ⟨q, listed, same⟩ := place
  rw [← same]
  rcases List.mem_pair.mp listed with rfl | rfl
  · exact finite.isNumber_sub number.half axis
  · exact finite.isNumber_add number.half axis

/-- Growing a proper box, or the empty one, by finite points takes the least and the greatest
coordinates that the box and the points have. -/
theorem includePoints_extremes {b : Box Float} (start : b.min ≤ b.max ∨ b = .empty) :
    (∀ ps : List (Vec3 Float), (∀ p ∈ ps, p.IsFinite) →
      (b.includePoints ps).Spans (b.min :: ps) (b.max :: ps) ∧
      (b = .empty → ps ≠ [] → (b.includePoints ps).Spans ps ps) ∧
      (∀ qs : List (Vec3 Float), (∀ p, p ∈ qs ↔ p ∈ ps) →
        (b.includePoints qs).equal (b.includePoints ps) = true) ∧
      ∀ more : List (Vec3 Float), (∀ p ∈ more, p.IsFinite) →
        (b.includePoints (ps ++ more)).min ≤ (b.includePoints ps).min ∧
        (b.includePoints ps).max ≤ (b.includePoints (ps ++ more)).max) ∧
    (∀ center size : Vec3 Float, (∀ p ∈ corners center size, p.IsNumber) →
      (b.includePoints (corners center size)).equal (b.includeBox center size) = true) ∧
    ∀ center size : Vec3 Float, center.IsFinite → size.IsNumber →
      ∀ p ∈ corners center size, p.IsNumber := by
  have isNumber : b.min.IsNumber ∧ b.max.IsNumber := by
    rcases start with proper | rfl
    · exact Vec3.isNumber_of_le proper
    · exact isNumber_empty
  obtain ⟨low, high⟩ := isNumber
  have numbers {ps : List (Vec3 Float)} (finite : ∀ p ∈ ps, p.IsFinite) :
      ∀ p ∈ ps, p.IsNumber := fun p listed => (finite p listed).isNumber
  refine ⟨fun ps finite => ⟨?_, ?_, ?_, ?_⟩, ?_, ?_⟩
  · exact includePoints_spans low high (numbers finite)
  · rintro rfl some
    exact empty_includePoints_spans some finite
  · intro qs same
    have same' : ∀ axis, coordinates qs axis = coordinates ps axis := by
      intro axis
      simp only [coordinates, same]
    exact includePoints_equal low high (fun q listed => numbers finite q ((same q).mp listed))
      (numbers finite) same'
  · intro more finite'
    obtain ⟨low', high'⟩ := isNumber_includePoints low high (numbers finite)
    have append : b.includePoints (ps ++ more) = (b.includePoints ps).includePoints more :=
      List.foldl_append
    rw [append]
    exact includePoints_grows low' high' (numbers finite')
  · intro center size numbers
    exact includePoints_corners_equal low high numbers
  · intro center size finite number p corner
    exact isNumber_of_mem_corners finite number corner

end Box

namespace Sample

def slab : Box Float := ⟨⟨1, -1, 0⟩, ⟨4, 1, 0⟩⟩

/-- Which zero the lower face is at depends on the order, but not whether the boxes are equal; and a
negative size does not turn a box inside out. -/
theorem slab_extremes :
    (slab.includePoints [⟨-0, 3, 2⟩, ⟨0, -7, 2⟩, ⟨-0, 3, 2⟩]).equal
      (slab.includePoints [⟨0, -7, 2⟩, ⟨-0, 3, 2⟩]) = true ∧
    (slab.includePoints [⟨0, -7, 2⟩, ⟨-0, 3, 2⟩]).Spans [slab.min, ⟨0, -7, 2⟩, ⟨-0, 3, 2⟩]
      [slab.max, ⟨0, -7, 2⟩, ⟨-0, 3, 2⟩] ∧
    (Box.empty.includePoints [⟨0, -7, 2⟩]).Spans [⟨0, -7, 2⟩] [⟨0, -7, 2⟩] ∧
    (slab.includePoints (Box.corners ⟨2, 0, 5⟩ ⟨-10, 1, -0⟩)).equal
      (slab.includeBox ⟨2, 0, 5⟩ ⟨-10, 1, -0⟩) = true := by
  have proper : slab.min ≤ slab.max := by decide +kernel
  obtain ⟨points, boxes, corners⟩ := Box.includePoints_extremes (.inl proper)
  obtain ⟨spans, -, unordered, -⟩ := points [⟨0, -7, 2⟩, ⟨-0, 3, 2⟩] (by decide +kernel)
  obtain ⟨-, alone, -, -⟩ := (Box.includePoints_extremes (.inr rfl)).1 [⟨0, -7, 2⟩]
    (by decide +kernel)
  have number : (⟨-10, 1, -0⟩ : Vec3 Float).IsFinite := by decide +kernel
  refine ⟨?_, spans, alone rfl (List.cons_ne_nil _ _), ?_⟩
  · apply unordered
    intro p
    simp only [List.mem_cons, List.not_mem_nil, or_false]
    tauto
  · exact boxes _ _ (corners _ _ (by decide +kernel) number.isNumber)

end Sample

end DetectorGeometry
