import DetectorGeometry.Model.Layout
import DetectorGeometry.Proofs.Model.Specialization

/-!
Which settings a model looks at. Reading a model that succeeds takes its values from the keys that
its assembly uses, so another header that agrees on these gives the same geometry. What the header
of a monolithic model says about the thickness of its chip has to be a number and has no effect.
-/
namespace DetectorGeometry

variable {α β : Type}

namespace Section

def AgreeOn (keys : List String) (s t : Section) : Prop :=
  ∀ key ∈ keys, s.settings.get? key = t.settings.get? key

theorem getD_of_get {s : Section} {reading : Reading β} {key : String} {value default : β}
    (read : s.get reading key = .ok value) : s.getD reading key default = .ok value := by
  obtain ⟨text, defined, reads⟩ := get_eq_ok.mp read
  exact getD_eq_ok.mpr (.read defined reads)

theorem merge_agreeOn {keys : List String} {s : Section}
    (undefined : ∀ key ∈ keys, s.has key = false) (t : Section) : t.AgreeOn keys (s.merge t) := by
  intro key member
  rw [get?_merge, has_eq_false.mp (undefined key member), Option.none_or]

theorem get_merge {s : Section} {reading : Reading β} {key : String} {value : β}
    (read : s.get reading key = .ok value) (t : Section) :
    (s.merge t).get reading key = .ok value := by
  obtain ⟨text, defined, reads⟩ := get_eq_ok.mp read
  exact get_eq_ok.mpr ⟨text, by rw [get?_merge, defined, Option.some_or], reads⟩

theorem AgreeOn.mono {keys others : List String} {s t : Section} (agree : s.AgreeOn keys t)
    (among : ∀ key ∈ others, key ∈ keys) : s.AgreeOn others t :=
  fun key member => agree key (among key member)

theorem AgreeOn.get {keys : List String} {s t : Section} (agree : AgreeOn keys s t)
    {reading : Reading β} {key : String} {value : β} (read : s.get reading key = .ok value)
    (member : key ∈ keys) : t.get reading key = .ok value := by
  obtain ⟨text, found, reads⟩ := get_eq_ok.mp read
  exact get_eq_ok.mpr ⟨text, (agree key member).symm.trans found, reads⟩

theorem AgreeOn.getD {keys : List String} {s t : Section} (agree : AgreeOn keys s t)
    {reading : Reading β} {key : String} {value default : β}
    (read : s.getD reading key default = .ok value) (member : key ∈ keys) :
    t.getD reading key default = .ok value := by
  refine getD_eq_ok.mpr ?_
  cases getD_eq_ok.mp read with
  | read defined reads => exact .read ((agree key member).symm.trans defined) reads
  | absent undefined => exact .absent ((agree key member).symm.trans undefined)

end Section

def Excess.keys (key : String) : List String :=
  [key, key ++ "_top", key ++ "_right", key ++ "_bottom", key ++ "_left"]

variable [Scalar α]

theorem Excess.ofSection_of_agree {keys : List String} {s t : Section}
    (agree : s.AgreeOn keys t) {key : String} (known : ∀ k ∈ Excess.keys key, k ∈ keys)
    {e : Excess α} (read : ofSection s key = .ok e) : ofSection t key = .ok e := by
  have agree := agree.mono known
  simp only [ofSection, Outcome.bind_eq_ok] at read ⊢
  obtain ⟨common, all, top, isTop, right, isRight, bottom, isBottom, left, isLeft, made⟩ := read
  exact ⟨common, agree.getD all (by simp [Excess.keys]),
    top, agree.getD isTop (by simp [Excess.keys]),
    right, agree.getD isRight (by simp [Excess.keys]),
    bottom, agree.getD isBottom (by simp [Excess.keys]),
    left, agree.getD isLeft (by simp [Excess.keys]), made⟩

def BumpBonding.keys : List String :=
  Excess.keys "chip_excess" ++
    ["bump_height", "bump_sphere_radius", "bump_cylinder_radius", "bump_offset"]

theorem BumpBonding.ofSection_of_agree {keys : List String} {s t : Section}
    (agree : s.AgreeOn keys t) (known : ∀ k ∈ BumpBonding.keys, k ∈ keys) {b : BumpBonding α}
    (read : ofSection s = .ok b) : ofSection t = .ok b := by
  have agree := agree.mono known
  simp only [ofSection, Outcome.bind_eq_ok] at read ⊢
  obtain ⟨excess, isExcess, height, isHeight, sphere, isSphere, cylinder, isCylinder, offset,
    isOffset, made⟩ := read
  have isExcess := Excess.ofSection_of_agree agree
    (fun _ member => List.mem_append_left _ member) isExcess
  exact ⟨excess, isExcess, height, agree.getD isHeight (by simp [BumpBonding.keys]),
    sphere, agree.getD isSphere (by simp [BumpBonding.keys]),
    cylinder, agree.getD isCylinder (by simp [BumpBonding.keys]),
    offset, agree.getD isOffset (by simp [BumpBonding.keys]), made⟩

namespace Assembly

def commonKeys : List String :=
  ["type", "number_of_pixels", "pixel_size", "sensor_thickness"] ++ Excess.keys "sensor_excess"

def keys : Assembly α → List String
  | hybrid _ => commonKeys ++ "chip_thickness" :: BumpBonding.keys
  | monolithic => commonKeys

omit [Scalar α] in
theorem mem_keys_of_common (a : Assembly α) {key : String} (common : key ∈ commonKeys) :
    key ∈ a.keys := by
  cases a with
  | hybrid _ => exact List.mem_append_left _ common
  | monolithic => exact common

theorem ofSection_of_agree {s t : Section} {a : Assembly α} (read : ofSection s = .ok a)
    (agree : s.AgreeOn a.keys t) {thickness : α}
    (number : t.getD .number "chip_thickness" 0 = .ok thickness) : ofSection t = .ok a := by
  simp only [ofSection] at read ⊢
  obtain ⟨kind, isKind, read⟩ := Outcome.bind_eq_ok.mp read
  refine Outcome.bind_eq_ok.mpr ⟨kind, agree.get isKind (a.mem_keys_of_common (by decide)), ?_⟩
  split at read
  case isTrue hybrid =>
    obtain ⟨bonding, isBonding, made⟩ := Outcome.bind_eq_ok.mp read
    cases made
    rw [if_pos hybrid]
    refine Outcome.bind_eq_ok.mpr ⟨bonding, ?_, rfl⟩
    refine BumpBonding.ofSection_of_agree agree (fun key member => ?_) isBonding
    exact List.mem_append_right _ (List.mem_cons_of_mem _ member)
  case isFalse other =>
    rw [if_neg other]
    split at read
    case isTrue monolithic =>
      obtain ⟨_, _, made⟩ := Outcome.bind_eq_ok.mp read
      cases made
      rw [if_pos monolithic]
      exact Outcome.bind_eq_ok.mpr ⟨thickness, number, rfl⟩
    case isFalse => cases read

end Assembly

namespace Model

/-- Models whose parts have the same sizes and lie in the same places. -/
structure SameGeometry (m n : Model α) : Prop where
  typeName : n.typeName = m.typeName
  assembly : n.assembly = m.assembly
  pixelCount : n.pixelCount = m.pixelCount
  pixelSize : n.pixelSize = m.pixelSize
  gridSize : n.gridSize = m.gridSize
  center : n.center = m.center
  sensorThickness : n.sensorThickness = m.sensorThickness
  sensorExcess : n.sensorExcess = m.sensorExcess
  sensorSize : n.sensorSize = m.sensorSize
  sensorCenter : n.sensorCenter = m.sensorCenter
  chipThickness : n.chipThickness = m.chipThickness
  chipGap : n.chipGap = m.chipGap
  chipExcess : n.chipExcess = m.chipExcess
  chipSize : n.chipSize = m.chipSize
  chipCenter : n.chipCenter = m.chipCenter
  bumpsCenter? : n.bumpsCenter? = m.bumpsCenter?
  bumpsSize? : n.bumpsSize? = m.bumpsSize?
  supportLayers : n.supportLayers = m.supportLayers
  size : n.size = m.size

/-- Settings that are none of those that the model is made from. A monolithic model accepts any
number as the thickness of its chip. -/
structure Spares (m : Model α) (settings : Section) : Prop where
  unused : ∀ key ∈ m.assembly.keys, settings.has key = false
  number : m.assembly = .monolithic → settings.has "chip_thickness" = true →
    ∃ thickness : α, settings.get .number "chip_thickness" = .ok thickness

theorem sameGeometry_of_eq {m n : Model α} {thickness : α}
    (same : n = { m with document := n.document, configuredChipThickness := thickness })
    (configured : m.assembly ≠ .monolithic → thickness = m.configuredChipThickness) :
    m.SameGeometry n := by
  obtain ⟨typeName, assembly, pixelCount, pixelSize, sensorThickness, sensorExcess, chip, layers,
    document⟩ := m
  cases assembly with
  | hybrid bonding =>
    obtain rfl := configured nofun
    rw [same]
    constructor <;> rfl
  | monolithic =>
    rw [same]
    constructor <;> rfl

theorem ofDocument_of_agree {typeName : String} {d d' : Document} {m : Model α}
    (read : ofDocument typeName d = .ok m) (agree : d.header.AgreeOn m.assembly.keys d'.header)
    (named : d.named = d'.named) {thickness : α}
    (number : d'.header.getD .number "chip_thickness" 0 = .ok thickness) :
    ofDocument typeName d' =
      .ok { m with document := d', configuredChipThickness := thickness } := by
  have layers : d.withName "support" = d'.withName "support" := by
    rw [Document.withName_eq_named (by decide), Document.withName_eq_named (by decide), named]
  have common : d.header.AgreeOn Assembly.commonKeys d'.header :=
    agree.mono fun key => m.assembly.mem_keys_of_common
  obtain ⟨typeName, describes⟩ := ofDocument_eq_ok.mp read
  exact ofDocument_eq_ok.mpr ⟨typeName, {
    document := rfl
    assembly := Assembly.ofSection_of_agree describes.assembly agree number
    pixelCount := common.get describes.pixelCount (by decide)
    pixelSize := common.get describes.pixelSize (by decide)
    sensorThickness := common.get describes.sensorThickness (by decide)
    sensorExcess := Excess.ofSection_of_agree common (by decide) describes.sensorExcess
    chipThickness := Section.getD_eq_ok.mp number
    layers := layers ▸ describes.layers }⟩

theorem configuredChipThickness_of_ofDocument {typeName : String} {d : Document} {m : Model α}
    (read : ofDocument typeName d = .ok m) :
    d.header.getD .number "chip_thickness" 0 = .ok m.configuredChipThickness :=
  Section.getD_eq_ok.mpr (ofDocument_eq_ok.mp read).2.chipThickness

theorem Spares.exists_thickness {m : Model α} {settings : Section} (spares : m.Spares settings)
    (configured : m.document.header.getD .number "chip_thickness" 0 =
      .ok m.configuredChipThickness) :
    ∃ thickness, (settings.merge m.document.header).getD .number "chip_thickness" 0 =
        .ok thickness ∧
      (m.assembly ≠ .monolithic → thickness = m.configuredChipThickness) := by
  cases given : settings.has "chip_thickness" with
  | false =>
    have undefined : ∀ key ∈ ["chip_thickness"], settings.has key = false :=
      fun key member => (List.mem_singleton.mp member) ▸ given
    have agree := Section.merge_agreeOn undefined m.document.header
    exact ⟨_, agree.getD configured List.mem_cons_self, fun _ => rfl⟩
  | true =>
    have monolithic : m.assembly = .monolithic := by
      cases kind : m.assembly with
      | monolithic => rfl
      | hybrid bonding =>
        have used : "chip_thickness" ∈ m.assembly.keys := by
          rw [kind]
          exact List.mem_append_right _ List.mem_cons_self
        cases given.symm.trans (spares.unused _ used)
    obtain ⟨thickness, number⟩ := spares.number monolithic given
    exact ⟨thickness, Section.getD_of_get (Section.get_merge number _), absurd monolithic⟩

/-- Settings that a model has no use for make no difference. -/
theorem specialize_of_spares {m : Model α} (obtained : m.Obtained) {settings : Section}
    (anonymous : settings.isAnonymous = true) (spares : m.Spares settings) :
    ∃ n, m.specialize settings = .ok n ∧ m.SameGeometry n := by
  have read := obtained.ofDocument_eq
  obtain ⟨thickness, number, kept⟩ :=
    spares.exists_thickness (configuredChipThickness_of_ofDocument read)
  have agree := Section.merge_agreeOn spares.unused m.document.header
  rw [← header_overlay anonymous m] at agree number
  have made := ofDocument_of_agree read agree (named_overlay anonymous m).symm number
  exact ⟨_, made, sameGeometry_of_eq rfl kept⟩

end Model

end DetectorGeometry
