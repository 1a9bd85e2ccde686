import DetectorGeometry.Proofs.Outcome
import DetectorGeometry.Proofs.Settings.Header
import DetectorGeometry.Proofs.Settings.Values
import DetectorGeometry.Setup.ModelFile

namespace DetectorGeometry

variable {α : Type} [Scalar α]

/-- What a document says about a model, key by key. -/
structure Document.Describes (d : Document) (m : Model α) : Prop where
  document : m.document = d
  assembly : Assembly.ofSection d.header = .ok m.assembly
  pixelCount : d.header.get .counts "number_of_pixels" = .ok m.pixelCount
  pixelSize : d.header.get .pair "pixel_size" = .ok m.pixelSize
  sensorThickness : d.header.get .number "sensor_thickness" = .ok m.sensorThickness
  sensorExcess : Excess.ofSection d.header "sensor_excess" = .ok m.sensorExcess
  chipThickness : d.header.Gives .number "chip_thickness" 0 m.configuredChipThickness
  layers : (d.withName "support").mapM SupportLayer.ofSection = .ok m.declaredLayers

namespace Model

theorem ofDocument_eq_ok {typeName : String} {document : Document} {m : Model α} :
    ofDocument typeName document = .ok m ↔ m.typeName = typeName ∧ document.Describes m := by
  simp only [ofDocument, Outcome.bind_eq_ok]
  constructor
  · rintro ⟨_, assembly, _, count, _, size, _, depth, _, excess, _, chip, _, layers, equal⟩
    cases equal
    exact ⟨rfl, rfl, assembly, count, size, depth, excess, Section.getD_eq_ok.mp chip, layers⟩
  · rintro ⟨rfl, describes⟩
    refine ⟨_, describes.assembly, _, describes.pixelCount, _, describes.pixelSize, _,
      describes.sensorThickness, _, describes.sensorExcess, _,
      Section.getD_eq_ok.mpr describes.chipThickness, _, describes.layers, ?_⟩
    rw [← describes.document]
    rfl

theorem ofDocument_congr {d d' : Document} (header : d.header = d'.header)
    (named : d.named = d'.named) (typeName : String) :
    ofDocument (α := α) typeName d' =
      (ofDocument typeName d).map fun m => { m with document := d' } := by
  have layers : d.withName "support" = d'.withName "support" := by
    rw [Document.withName_eq_named (by decide), Document.withName_eq_named (by decide), named]
  simp only [ofDocument, Outcome.map_bind, header, layers]
  rfl

end Model

/-- What a model file reads as, from its bytes on. The model has the name that the file is listed
by. -/
inductive ModelFile.Reads (files : FileSystem) (file : ModelFile) :
    Except SettingsError (Model α) → Prop where
  | refused (none : files.read file.path = none) :
      Reads files file (.error (.unreadable file.path .refused))
  | notText {bytes} (read : files.read file.path = some bytes)
      (invalid : String.fromUTF8? bytes = none) :
      Reads files file (.error (.unreadable file.path .notText))
  | malformed {bytes text e} (read : files.read file.path = some bytes)
      (decoded : String.fromUTF8? bytes = some text)
      (bad : Document.parse text (some file.path) = .error e) : Reads files file (.error e)
  | invalid {bytes text document e} (read : files.read file.path = some bytes)
      (decoded : String.fromUTF8? bytes = some text)
      (parsed : Document.parse text (some file.path) = .ok document)
      (bad : Model.ofDocument (α := α) file.name document = .error e) : Reads files file (.error e)
  | model {bytes text document m} (read : files.read file.path = some bytes)
      (decoded : String.fromUTF8? bytes = some text)
      (parsed : Document.parse text (some file.path) = .ok document)
      (named : m.typeName = file.name) (describes : document.Describes m) :
      Reads files file (.ok m)

theorem ModelFile.reads_iff {files : FileSystem} {file : ModelFile}
    (named : Model.nameOfFile file.path = .ok file.name) {r : Except SettingsError (Model α)} :
    file.Reads files r ↔ Model.load files file.path = r := by
  have loads : Model.load files file.path =
      Document.load files file.path >>= Model.ofDocument (α := α) file.name := by
    rw [Model.load, named]
    rfl
  rw [loads, Document.load]
  constructor
  · intro reads
    cases reads with
    | refused none => rw [none]; rfl
    | notText read invalid => simp only [read, invalid]; rfl
    | malformed read decoded bad => simp only [read, decoded, bad]; rfl
    | invalid read decoded parsed bad => simp only [read, decoded, parsed]; exact bad
    | model read decoded parsed named describes =>
      simp only [read, decoded, parsed]
      exact Model.ofDocument_eq_ok.mpr ⟨named, describes⟩
  · rintro rfl
    cases read : files.read file.path with
    | none => exact .refused read
    | some bytes =>
      dsimp only
      cases decoded : String.fromUTF8? bytes with
      | none => exact .notText read decoded
      | some text =>
        dsimp only
        cases parsed : Document.parse text (some file.path) with
        | error e => exact .malformed read decoded parsed
        | ok document =>
          change file.Reads files (Model.ofDocument file.name document)
          cases made : Model.ofDocument (α := α) file.name document with
          | error e => exact .invalid read decoded parsed made
          | ok m =>
            obtain ⟨named, describes⟩ := Model.ofDocument_eq_ok.mp made
            exact .model read decoded parsed named describes

end DetectorGeometry
