import DetectorGeometry.Proofs.Model.Reading
import DetectorGeometry.Scalar.Double

/-!
Specialization as an overlay. The settings that a model is specialized to come in front of its
merged header and leave the named sections alone, so that specializations compose like the overlays
of their settings (`Model.specialize_overlays`).
-/
namespace DetectorGeometry

variable {α : Type}

namespace Model

/-- Models that differ at most in the documents that they were read from, and whose sections are the
same all the same. -/
structure Alike (m n : Model α) : Prop where
  parameters : n = { m with document := n.document }
  sections : m.sections = n.sections

/-- Both steps fail with the same error, or both give models that are alike. -/
def SameOutcome : Except SettingsError (Model α) → Except SettingsError (Model α) → Prop
  | .ok m, .ok n => m.Alike n
  | .error e, .error e' => e = e'
  | _, _ => False

theorem header_sections (m : Model α) : (⟨m.sections⟩ : Document).header = m.document.header :=
  Document.header_of_anonymous (Document.anonymous_append_named [m.document.header] m.document
    (by simp [Document.isAnonymous_header]))

theorem named_sections (m : Model α) : (⟨m.sections⟩ : Document).named = m.document.named :=
  Document.named_append_named [m.document.header] m.document
    (by simp [Document.isAnonymous_header])

theorem header_overlay {overrides : Section} (anonymous : overrides.isAnonymous = true)
    (m : Model α) :
    (⟨overrides :: m.sections⟩ : Document).header = overrides.merge m.document.header :=
  Document.header_of_anonymous (Document.anonymous_append_named [overrides, m.document.header]
    m.document (by simp [anonymous, Document.isAnonymous_header]))

theorem named_overlay {overrides : Section} (anonymous : overrides.isAnonymous = true)
    (m : Model α) : (⟨overrides :: m.sections⟩ : Document).named = m.document.named :=
  Document.named_append_named [overrides, m.document.header] m.document
    (by simp [anonymous, Document.isAnonymous_header])

theorem Alike.symm {m n : Model α} (alike : m.Alike n) : n.Alike m := by
  constructor
  · rw [alike.parameters]
  · exact alike.sections.symm

theorem SameOutcome.symm {x y : Except SettingsError (Model α)} (same : SameOutcome x y) :
    SameOutcome y x := by
  cases x with
  | error _ =>
    cases y with
    | error _ => exact Eq.symm same
    | ok _ => exact same
  | ok _ =>
    cases y with
    | error _ => exact same
    | ok _ => exact Alike.symm same

theorem SameOutcome.of_ok {m : Model α} {x : Except SettingsError (Model α)}
    (same : SameOutcome (.ok m) x) : ∃ n, x = .ok n ∧ m.Alike n := by
  cases x with
  | error _ => cases same
  | ok n => exact ⟨n, rfl, same⟩

variable [Scalar α]

/-- The models there are: those read from documents and those specialized from earlier ones. -/
inductive Obtained : Model α → Prop
  | read {typeName : String} {document : Document} {m : Model α}
    (made : ofDocument typeName document = .ok m) : Obtained m
  | specialized {m m' : Model α} {overrides : Section} (obtained : Obtained m)
    (made : m.specialize overrides = .ok m') : Obtained m'

theorem Obtained.ofDocument_eq {m : Model α} (obtained : m.Obtained) :
    ofDocument m.typeName m.document = .ok m := by
  cases obtained with
  | read made | specialized _ made =>
    obtain ⟨typeName, describes⟩ := ofDocument_eq_ok.mp made
    rw [typeName, describes.document]
    exact made

theorem sameOutcome_ofDocument {d d' : Document} (header : d.header = d'.header)
    (named : d.named = d'.named) (typeName : String) :
    SameOutcome (α := α) (ofDocument typeName d) (ofDocument typeName d') := by
  rw [ofDocument_congr header named]
  cases read : ofDocument (α := α) typeName d with
  | error e => rfl
  | ok m =>
    constructor
    · rfl
    · simp only [sections, (ofDocument_eq_ok.mp read).2.document, header, named]

theorem specialize_eq_ok {m m' : Model α} {overrides : Section}
    (anonymous : overrides.isAnonymous = true) (made : m.specialize overrides = .ok m') :
    m'.typeName = m.typeName ∧ m'.document.header = overrides.merge m.document.header ∧
      m'.document.named = m.document.named := by
  obtain ⟨typeName, describes⟩ := ofDocument_eq_ok.mp made
  rw [describes.document, header_overlay anonymous, named_overlay anonymous]
  exact ⟨typeName, rfl, rfl⟩

/-- Specializing twice is specializing to both settings, the later ones in front. -/
theorem specialize_specialize {m m' : Model α} {overrides later : Section}
    (anonymous : overrides.isAnonymous = true) (anonymous' : later.isAnonymous = true)
    (made : m.specialize overrides = .ok m') :
    SameOutcome (m'.specialize later) (m.specialize (later.merge overrides)) := by
  obtain ⟨typeName, header, named⟩ := specialize_eq_ok anonymous made
  have merged : (later.merge overrides).isAnonymous = true := anonymous'
  rw [specialize, specialize, typeName]
  apply sameOutcome_ofDocument
  · rw [header_overlay anonymous', header_overlay merged, header, Section.merge_assoc]
  · rw [named_overlay anonymous', named_overlay merged, named]

theorem Obtained.sameOutcome_sections {m : Model α} (obtained : m.Obtained) :
    SameOutcome (.ok m) (ofDocument m.typeName ⟨m.sections⟩) := by
  rw [← obtained.ofDocument_eq]
  exact sameOutcome_ofDocument m.header_sections.symm m.named_sections.symm m.typeName

/-- Specialization is an overlay over the header of a model: specializing to some settings and then
to others is specializing to both, doing the same again changes nothing more, and the sections of a
model describe it completely. -/
theorem specialize_overlays {m : Model α} (obtained : m.Obtained) {first later : Section}
    (anonymous : first.isAnonymous = true) (anonymous' : later.isAnonymous = true) :
    (∀ m', m.specialize first = .ok m' →
      (∀ key, m'.document.header.settings.get? key =
        if first.has key then first.settings.get? key else m.document.header.settings.get? key) ∧
      m'.typeName = m.typeName ∧ m'.document.named = m.document.named ∧
      SameOutcome (m'.specialize later) (m.specialize (later.merge first)) ∧
      ∃ again, m'.specialize first = .ok again ∧ m'.Alike again) ∧
    ∃ copy, ofDocument m.typeName ⟨m.sections⟩ = .ok copy ∧ m.Alike copy := by
  refine ⟨fun m' made => ?_, obtained.sameOutcome_sections.of_ok⟩
  obtain ⟨typeName, header, named⟩ := specialize_eq_ok anonymous made
  refine ⟨fun key => ?_, typeName, named, specialize_specialize anonymous anonymous' made, ?_⟩
  · rw [header, Section.get?_merge]
    unfold Section.has
    rw [Table.contains_eq]
    cases found : first.settings.get? key <;> simp
  · have twice := specialize_specialize anonymous anonymous made
    rw [Section.merge_self, made] at twice
    exact twice.symm.of_ok

end Model

namespace Sample

def parameters : Section :=
  ((((Section.new "" none).set "type" "monolithic").set "number_of_pixels" "2 2").set
    "pixel_size" "1mm 1mm").set "sensor_thickness" "1mm"

def carrier : Section := ((Section.new "support" none).set "thickness" "1mm").set "size" "2mm 2mm"

def thinner : Section := (Section.new "" none).set "sensor_thickness" "0.5mm"

def finer : Section := (Section.new "" none).set "pixel_size" "0.5mm 0.5mm"

theorem parameters_overlaid :
    ∃ m m' : Model Float, Model.ofDocument "basic" ⟨[parameters, carrier]⟩ = .ok m ∧
      m.specialize thinner = .ok m' ∧
      m'.document.header.settings.get? "sensor_thickness" = some "0.5mm" ∧
      m'.document.header.settings.get? "pixel_size" = some "1mm 1mm" ∧
      m'.document.named = [carrier] ∧
      Model.SameOutcome (m'.specialize finer) (m.specialize (finer.merge thinner)) ∧
      (∃ again, m'.specialize thinner = .ok again ∧ m'.Alike again) ∧
      ∃ copy, Model.ofDocument "basic" ⟨m.sections⟩ = .ok copy ∧ m.Alike copy := by
  have reads : (Model.ofDocument (α := Float) "basic" ⟨[parameters, carrier]⟩ >>=
      (·.specialize thinner)).isOk = true := by
    decide +kernel
  obtain ⟨m', made⟩ := Outcome.isOk_iff.mp reads
  obtain ⟨m, read, made⟩ := Outcome.bind_eq_ok.mp made
  obtain ⟨typeName, describes⟩ := Model.ofDocument_eq_ok.mp read
  have anonymous : thinner.isAnonymous = true := rfl
  have anonymous' : finer.isAnonymous = true := rfl
  obtain ⟨overlay, copied⟩ := Model.specialize_overlays (.read read) anonymous anonymous'
  obtain ⟨header, _, named, composed, repeated⟩ := overlay m' made
  rw [describes.document] at header named
  rw [typeName] at copied
  refine ⟨m, m', read, made, ?_, ?_, ?_, composed, repeated, copied⟩
  · rw [header]
    decide +kernel
  · rw [header]
    decide +kernel
  · rw [named]
    decide +kernel

end Sample

end DetectorGeometry
