import DetectorGeometry.Files.Tree
import DetectorGeometry.Proofs.Catalogue
import DetectorGeometry.Proofs.Model.Reading
import DetectorGeometry.Proofs.Setup.Requests
import DetectorGeometry.Scalar.Double

/-!
Where the generic models of a closed geometry come from. The models that were added come first; a
type that is asked for and was not added gets its model from the first file of its name, and no
other file is ever read (`Setup.Consistent.loadModels_eq`).
-/
namespace DetectorGeometry

variable {α : Type}

namespace ModelFile

/-- The files that decide about the wanted names: the first one of each name, in the order of the
list. -/
def firsts (wanted : String → Bool) : List ModelFile → List ModelFile
  | [] => []
  | file :: rest =>
    if wanted file.name then file :: firsts (fun name => wanted name && name != file.name) rest
    else firsts wanted rest

theorem find?_firsts (wanted : String → Bool) (found : List ModelFile) (name : String) :
    (firsts wanted found).find? (·.name == name) =
      if wanted name then found.find? (·.name == name) else none := by
  induction found generalizing wanted with
  | nil => simp [firsts]
  | cons file rest ih =>
    unfold firsts
    split
    case isTrue isWanted =>
      rw [List.find?_cons, List.find?_cons, ih]
      by_cases same : file.name = name
      · subst same
        simp [isWanted]
      · simp [beq_false_of_ne same, Ne.symm same]
    case isFalse isUnwanted =>
      rw [ih, List.find?_cons]
      by_cases same : file.name = name
      · subst same
        simp [isUnwanted]
      · simp [beq_false_of_ne same]

theorem mem_firsts {wanted : String → Bool} {found : List ModelFile} {file : ModelFile} :
    file ∈ firsts wanted found ↔
      wanted file.name = true ∧ found.find? (·.name == file.name) = some file := by
  induction found generalizing wanted with
  | nil => simp [firsts]
  | cons head rest ih =>
    unfold firsts
    split
    case isTrue isWanted =>
      rw [List.mem_cons, ih, List.find?_cons]
      by_cases same : head.name = file.name
      · have isWanted' : wanted file.name = true := same ▸ isWanted
        simp [same, isWanted', eq_comm]
      · have other : file ≠ head := fun equal => same (congrArg ModelFile.name equal).symm
        simp [beq_false_of_ne same, Ne.symm same, other]
    case isFalse isUnwanted =>
      rw [ih, List.find?_cons]
      by_cases same : head.name = file.name
      · have isUnwanted' : wanted file.name ≠ true := same ▸ isUnwanted
        simp [isUnwanted']
      · simp [beq_false_of_ne same]

theorem mem_of_mem_firsts {wanted : String → Bool} {found : List ModelFile} {file : ModelFile}
    (member : file ∈ firsts wanted found) : file ∈ found :=
  List.mem_of_find?_eq_some (mem_firsts.mp member).2

theorem nameOfFile_of_ofPath {path : Path} {file : ModelFile} (made : ofPath path = .ok file) :
    Model.nameOfFile file.path = .ok file.name := by
  simp only [ofPath, Outcome.bind_eq_ok] at made
  obtain ⟨name, named, equal⟩ := made
  cases equal
  exact named

theorem nameOfFile_of_search {files : FileSystem} {paths : List Path} {listed : List ModelFile}
    (searched : search files paths = .ok listed) {file : ModelFile} (member : file ∈ listed) :
    Model.nameOfFile file.path = .ok file.name := by
  simp only [search, Outcome.bind_eq_ok] at searched
  obtain ⟨groups, groupsFound, equal⟩ := searched
  cases equal
  obtain ⟨group, inGroups, inGroup⟩ := List.mem_flatten.mp member
  obtain ⟨path, _, pathFound⟩ := Outcome.mem_of_mapM groupsFound inGroups
  unfold found at pathFound
  split at pathFound
  case isTrue =>
    split at pathFound
    · cases pathFound
    · obtain ⟨name, _, made⟩ := Outcome.mem_of_mapM pathFound inGroup
      exact nameOfFile_of_ofPath made
  case isFalse =>
    simp only [Outcome.bind_eq_ok] at pathFound
    obtain ⟨only, made, equal⟩ := pathFound
    cases equal
    rw [List.mem_singleton] at inGroup
    rw [inGroup]
    exact nameOfFile_of_ofPath made

theorem reads_iff_of_mem_firsts [Scalar α] {files others : FileSystem} {paths : List Path}
    {listed : List ModelFile} {wanted : String → Bool} {file : ModelFile}
    (searched : search files paths = .ok listed) (member : file ∈ firsts wanted listed)
    {r : Except SettingsError (Model α)} :
    file.Reads others r ↔ Model.load others file.path = r :=
  reads_iff (nameOfFile_of_search searched (mem_of_mem_firsts member))

end ModelFile

theorem Model.typeName_of_load [Scalar α] {files : FileSystem} {file : ModelFile} {m : Model α}
    (named : nameOfFile file.path = .ok file.name) (loaded : load files file.path = .ok m) :
    m.typeName = file.name := by
  cases (ModelFile.reads_iff named).mpr loaded with
  | model _ _ _ typeName _ => exact typeName

namespace Setup

def lacks (s : Setup α) (typeName : String) : Bool :=
  s.drafts.any (·.modelType == typeName) && !s.hasModel typeName

theorem Consistent.lacks_iff {s : Setup α} (sound : s.Consistent) {typeName : String} :
    s.lacks typeName = true ↔
      (∃ number settings, s.Asks number typeName settings) ∧ s.hasModel typeName = false := by
  simp only [lacks, Bool.and_eq_true, Bool.not_eq_true', List.any_eq_true, beq_iff_eq]
  apply and_congr_left'
  constructor
  · rintro ⟨draft, member, rfl⟩
    obtain ⟨number, known⟩ := List.mem_iff_getElem?.mp member
    exact ⟨number, sound.asking known⟩
  · rintro ⟨number, settings, asks⟩
    obtain ⟨draft, known, _, type, _⟩ := sound.asked asks
    exact ⟨draft, List.mem_of_getElem? known, type⟩

theorem Consistent.lacks_of_requested {s : Setup α} (sound : s.Consistent) {typeName : String}
    {requests : List Request} (requested : s.requests.get? typeName = some requests)
    (unknown : s.hasModel typeName = false) : s.lacks typeName = true := by
  cases requests with
  | nil => exact absurd requested sound.nonempty
  | cons request rest =>
    exact sound.lacks_iff.mpr
      ⟨⟨request.draft, request.settings, _, requested, List.mem_cons_self⟩, unknown⟩

theorem hasModel_eq_false {s : Setup α} {typeName : String} :
    s.hasModel typeName = false ↔ s.models.models.find? (·.typeName == typeName) = none := by
  rw [hasModel, Catalogue.contains_eq_any, List.any_eq_false, List.find?_eq_none]

variable [Scalar α]

/-- Searching model files comes down to reading those that decide. -/
theorem foldlM_addFile (files : FileSystem) (s : Setup α) (found : List ModelFile)
    (named : ∀ file ∈ found, Model.nameOfFile file.path = .ok file.name) (c : Catalogue α) :
    found.foldlM (s.addFile files) c =
      Error.ofSettings ((ModelFile.firsts (fun name => s.needsModel name && !c.contains name)
        found).mapM fun file => Model.load files file.path) >>= fun read =>
      .ok ⟨c.models ++ read⟩ := by
  induction found generalizing c with
  | nil =>
    simp [ModelFile.firsts, Error.ofSettings, Pure.pure, Except.pure, bind, Except.bind]
  | cons file rest ih =>
    have ih := ih fun file member => named file (List.mem_cons_of_mem _ member)
    simp only [List.foldlM_cons, addFile, ModelFile.firsts]
    cases wanted : s.needsModel file.name && !c.contains file.name with
    | false =>
      have skipped : (c.contains file.name || !s.needsModel file.name) = true := by
        revert wanted
        cases s.needsModel file.name <;> cases c.contains file.name <;> simp
      simpa [skipped, bind, Except.bind] using ih c
    | true =>
      have taken : (c.contains file.name || !s.needsModel file.name) = false := by
        revert wanted
        cases s.needsModel file.name <;> cases c.contains file.name <;> simp
      simp only [taken, if_true, Bool.false_eq_true, if_false, List.mapM_cons]
      cases read : Model.load (α := α) files file.path with
      | error e => rfl
      | ok m =>
        have typeName := Model.typeName_of_load (named file List.mem_cons_self) read
        have inserted : c.insert m = .ok ⟨c.models ++ [m]⟩ := by
          rw [Catalogue.insert_eq_ok, typeName]
          exact ⟨(Bool.or_eq_false_iff.mp taken).1, rfl⟩
        have wanted' : (fun name => s.needsModel name &&
            !(⟨c.models ++ [m]⟩ : Catalogue α).contains name) =
            fun name => s.needsModel name && !c.contains name && name != file.name := by
          funext name
          simp [Catalogue.contains_eq_any, typeName, Bool.and_assoc, bne, Bool.beq_comm (a := name)]
        have next := ih ⟨c.models ++ [m]⟩
        rw [wanted'] at next
        simp only [Error.ofSettings, inserted, bind, Except.bind] at next ⊢
        rw [next]
        cases (ModelFile.firsts (fun name => s.needsModel name && !c.contains name &&
            name != file.name) rest).mapM fun file => Model.load (α := α) files file.path with
        | error e => rfl
        | ok others => simp [pure, Except.pure]

/-- The models of the setup come first and then those of the files that decide about the types
without a model. -/
theorem Consistent.loadModels_eq {s : Setup α} (sound : s.Consistent) (files : FileSystem) :
    s.loadModels files =
      Error.ofSettings (ModelFile.search files s.modelPaths) >>= fun found =>
      Error.ofSettings ((ModelFile.firsts s.lacks found).mapM fun file =>
        Model.load files file.path) >>= fun read =>
      .ok ⟨s.models.models ++ read⟩ := by
  have wanted : (fun name => s.needsModel name && !s.models.contains name) = s.lacks := by
    funext name
    rw [sound.needsModel_eq]
    rfl
  unfold loadModels
  cases searched : ModelFile.search files s.modelPaths with
  | error e => rfl
  | ok found =>
    rw [← wanted]
    exact foldlM_addFile files s found (fun _ => ModelFile.nameOfFile_of_search searched) s.models

theorem assemble_eq_ok {s : Setup α} {files : FileSystem} {g : Geometry α} :
    s.assemble files = .ok g ↔
      ∃ models resolution detectors, s.loadModels files = .ok models ∧
        s.resolve models = .ok resolution ∧
        (s.numbered.mapM fun (draft, number) => finishDraft resolution draft number) =
          .ok detectors ∧
        g = ⟨detectors, Geometry.positionsOf detectors, models, s.points, s.modelPaths, none⟩ := by
  simp only [assemble, Outcome.bind_eq_ok]
  constructor
  · rintro ⟨models, loaded, resolution, resolved, detectors, finished, equal⟩
    cases equal
    exact ⟨models, resolution, detectors, loaded, resolved, finished, rfl⟩
  · rintro ⟨models, resolution, detectors, loaded, resolved, finished, rfl⟩
    exact ⟨models, loaded, resolution, resolved, detectors, finished, rfl⟩

end Setup

section Added

variable [Scalar α] [Trigonometry α]

def Call.addedModels (s : Setup α) : Call α → List (Model α)
  | .addModel m => if (s.addModel m).2.isOk then [m] else []
  | _ => []

def Setup.addedModels (s : Setup α) : List (Call α) → List (Model α)
  | [] => []
  | call :: rest => call.addedModels s ++ addedModels (call.perform s).1 rest

theorem Call.models_perform {s : Setup α} {call : Call α}
    (isOpen : (call.perform s).1.isClosed = false) :
    (call.perform s).1.models.models = s.models.models ++ call.addedModels s := by
  cases call with
  | load env noise sections global seeder =>
    simp only [addedModels, List.append_nil]
    exact Setup.load_keeps (·.models.models = s.models.models)
      (fun t t' settings position orientation _ same registered => by
        obtain ⟨_, _, typeName, _, rfl⟩ := Setup.register_eq_ok.mp registered
        exact same)
      (fun t more _ same => same) env noise s sections global seeder rfl
  | addDetector name position orientation modelType =>
    simp only [addedModels, List.append_nil]
    refine (s.atomic_addDetector name position orientation modelType).view_eq (·.models.models)
      fun s' _ added => ?_
    obtain ⟨_, registered⟩ := Setup.addDetector_eq_ok.mp added
    obtain ⟨_, _, typeName, _, rfl⟩ := Setup.register_eq_ok.mp registered
    rfl
  | addModel m =>
    rw [addedModels, perform, Prod.map_fst, id]
    rcases (s.atomic_addModel m).cases with ⟨e, failed⟩ | ⟨s', _, added⟩
    · simp [failed, Except.isOk, Except.toBool]
    · rw [added]
      obtain ⟨_, models, inserted, rfl⟩ := Setup.addModel_eq_ok.mp added
      obtain ⟨_, rfl⟩ := Catalogue.insert_eq_ok.mp inserted
      rfl
  | addPoint p =>
    simp only [addedModels, List.append_nil]
    refine (s.atomic_addPoint p).view_eq (·.models.models) fun s' _ added => ?_
    obtain ⟨_, rfl⟩ := Setup.addPoint_eq_ok.mp added
    rfl
  | addModelPath path =>
    simp only [addedModels, List.append_nil]
    refine (s.atomic_addModelPath path).view_eq (·.models.models) fun s' _ added => ?_
    obtain ⟨_, rfl⟩ := Setup.addModelPath_eq_ok.mp added
    rfl
  | close files =>
    simp only [addedModels, List.append_nil]
    refine (s.atomic_close files).view_eq (·.models.models) fun s' g closing => ?_
    rw [perform, closing] at isOpen
    cases closed : s.isClosed with
    | false =>
      obtain ⟨_, rfl⟩ := (Setup.close_eq_ok closed).mp closing
      cases isOpen
    | true => rw [Setup.close_of_isClosed closed closing]

theorem Setup.models_after (s : Setup α) (calls : List (Call α))
    (isOpen : (s.after calls).isClosed = false) :
    (s.after calls).models.models = s.models.models ++ s.addedModels calls := by
  induction calls generalizing s with
  | nil => simp [after, addedModels]
  | cons call rest ih =>
    have between : (call.perform s).1.isClosed = false :=
      isOpen_of_changes ((call.perform s).1.after_changes rest) isOpen
    have tail := ih (call.perform s).1 isOpen
    rw [Call.models_perform between, List.append_assoc] at tail
    exact tail

namespace Setup

/-- The generic models of a closed geometry are those that were added and, behind them, those read
from the files that decide about the types without one. No other file counts. -/
theorem close_reads_deciding_files {s : Setup α} {calls : List (Call α)}
    (run : s = empty.after calls) (isOpen : s.isClosed = false) :
    (∀ files s' g, s.close files = (s', .ok g) →
      ∃ found read, ModelFile.search files s.modelPaths = .ok found ∧
        List.Forall₂ (fun (file : ModelFile) m => file.Reads files (.ok m))
          (ModelFile.firsts s.lacks found) read ∧
        g.models.models = empty.addedModels calls ++ read) ∧
    (∀ files found before file after e, ModelFile.search files s.modelPaths = .ok found →
      ModelFile.firsts s.lacks found = before ++ file :: after →
      (∀ earlier ∈ before, ∃ m : Model α, earlier.Reads files (.ok m)) →
      file.Reads (α := α) files (.error e) → (s.close files).2 = .error (.settings e)) ∧
    (∀ files others,
      ModelFile.search files s.modelPaths = ModelFile.search others s.modelPaths →
      (∀ found, ModelFile.search files s.modelPaths = .ok found →
        ∀ file ∈ ModelFile.firsts s.lacks found, ∀ result : Except SettingsError (Model α),
          file.Reads files result ↔ file.Reads others result) →
      s.close files = s.close others) := by
  have sound : s.Consistent := Reachable.consistent ⟨calls, run⟩
  have added : s.models.models = empty.addedModels calls := by
    rw [run] at isOpen ⊢
    exact models_after empty calls isOpen
  refine ⟨fun files s' g closing => ?_, fun files found before file after e searched parts fine
    failed => ?_, fun files others sameFound sameRead => ?_⟩
  · obtain ⟨assembled, _⟩ := (close_eq_ok isOpen).mp closing
    obtain ⟨models, _, _, loaded, _, _, rfl⟩ := assemble_eq_ok.mp assembled
    rw [sound.loadModels_eq] at loaded
    simp only [Outcome.bind_eq_ok, Outcome.ofSettings_eq_ok] at loaded
    obtain ⟨found, searched, read, reading, equal⟩ := loaded
    cases equal
    refine ⟨found, read, searched, ?_, by rw [added]⟩
    exact ((List.forall₂_and_left _ _).mpr ⟨fun _ => id, Outcome.mapM_eq_ok.mp reading⟩).imp
      fun file m fits => (ModelFile.reads_iff_of_mem_firsts searched fits.1).mpr fits.2
  · have reads : ∀ other ∈ before ++ file :: after, ∀ {r : Except SettingsError (Model α)},
        other.Reads files r ↔ Model.load files other.path = r := fun other member =>
      ModelFile.reads_iff_of_mem_firsts searched (parts ▸ member)
    have reading : (ModelFile.firsts s.lacks found).mapM
        (fun file => Model.load (α := α) files file.path) = .error e := by
      refine Outcome.mapM_eq_error.mpr ⟨before, file, after, parts, fun earlier member => ?_,
        (reads file (by simp)).mp failed⟩
      obtain ⟨m, read⟩ := fine earlier member
      exact ⟨m, (reads earlier (by simp [member])).mp read⟩
    have stopped : s.assemble files = .error (.settings e) := by
      rw [assemble, sound.loadModels_eq, searched]
      simp only [Error.ofSettings, bind, Except.bind, reading]
    simp only [close, closed?_eq_none.mpr isOpen, stopped]
  · have sameModels : s.loadModels files = s.loadModels others := by
      rw [sound.loadModels_eq, sound.loadModels_eq, ← sameFound]
      cases searched : ModelFile.search files s.modelPaths with
      | error e => rfl
      | ok found =>
        simp only [Error.ofSettings, bind, Except.bind]
        rw [Outcome.mapM_congr fun file member => ?_]
        have read := (sameRead found searched file member _).mp
          ((ModelFile.reads_iff_of_mem_firsts searched member).mpr rfl)
        exact ((ModelFile.reads_iff_of_mem_firsts searched member).mp read).symm
    simp only [close, closed?_eq_none.mpr isOpen, assemble, sameModels]

end Setup

end Added

namespace Sample

def detector (name : String) (settings : List (String × String)) : Section :=
  settings.foldl (fun s setting => s.set setting.1 setting.2) (.new name none)

def plain : Section := detector "plain" [("type", "basic"), ("position", "0 0 1mm"),
  ("orientation", "0 10deg 0"), ("orientation_mode", "zxz")]

def thick : Section := detector "thick" [("type", "basic"), ("sensor_thickness", "2mm")]

def twin : Section := detector "twin" [("type", "basic"), ("sensor_thickness", "2mm"),
  ("orientation", "0 0 90deg"), ("orientation_mode", "zyx")]

def thicker : Section := detector "thicker" [("type", "basic"), ("sensor_thickness", "3mm")]

def modelText : String :=
  "type = monolithic\nnumber_of_pixels = 2 2\npixel_size = 1mm 1mm\nsensor_thickness = 1mm\n"

def shelves (first second : String) : FileSystem :=
  ((FileTree.empty.addFile ["first", "basic.conf"] first.toUTF8).addFile
    ["second", "basic.conf"] second.toUTF8).system

def files (second : String) : FileSystem := shelves modelText second

def pad {α : Type} [Scalar α] (typeName : String) : Model α :=
  ⟨typeName, .monolithic, ⟨1, 1⟩, ⟨1, 1⟩, 1, ⟨0, 0, 0, 0⟩, 0, [], ⟨[]⟩⟩

def calls : List (Call Float) :=
  [.addModel (pad "spare"), .addModelPath ⟨"/first/basic.conf"⟩,
   .addModelPath ⟨"/second/basic.conf"⟩,
   .load ⟨files "", ⟨"/none"⟩, none⟩ ⟨fun _ _ => 0⟩ [plain, thick, twin, thicker] (.new "" none)
     ⟨0⟩]

def setup : Setup Float := Setup.empty.after calls

theorem setup_isOpen : setup.isClosed = false := by decide +kernel

theorem setup_closes : (setup.close (files "")).2.isOk = true := by decide +kernel

def firstFile : ModelFile := ⟨"basic", ⟨"/first/basic.conf"⟩⟩

theorem setup_searched (first second : String) :
    ModelFile.search (shelves first second) setup.modelPaths =
      .ok [firstFile, ⟨"basic", ⟨"/second/basic.conf"⟩⟩] := by
  have paths : setup.modelPaths = [⟨"/first/basic.conf"⟩, ⟨"/second/basic.conf"⟩] := by
    decide +kernel
  rw [paths]
  rfl

theorem setup_deciding :
    ModelFile.firsts setup.lacks [firstFile, ⟨"basic", ⟨"/second/basic.conf"⟩⟩] = [firstFile] := by
  decide +kernel

/-- The added model comes first, then the one that the text of the first file describes. The second
file does not count, even if it is broken, and a broken first file cannot be closed over. -/
theorem setup_reads_first_file :
    (∃ s' g m, setup.close (files "") = (s', .ok g) ∧ g.models.models = [pad "spare", m] ∧
      firstFile.Reads (files "") (.ok m) ∧ m.typeName = "basic" ∧ m.pixelCount = ⟨2, 2⟩ ∧
      m.sensorThickness = 1) ∧
    setup.close (files "") = setup.close (files "broken") ∧
    (setup.close (shelves "broken" modelText)).2 =
      .error (.settings (.malformed (some ⟨"/first/basic.conf"⟩) 1 .noEqualsSign)) := by
  have run : setup = Setup.empty.after calls := rfl
  have named : Model.nameOfFile firstFile.path = .ok firstFile.name := by decide +kernel
  obtain ⟨sources, failing, independent⟩ := Setup.close_reads_deciding_files run setup_isOpen
  refine ⟨?_, ?_, ?_⟩
  · obtain ⟨s', g, closing⟩ := Outcome.exists_of_isOk_snd setup_closes
    obtain ⟨found, read, searched, reading, models⟩ := sources _ s' g closing
    cases searched.symm.trans (setup_searched modelText "")
    rw [setup_deciding] at reading
    obtain ⟨m, _, reads, rest, rfl⟩ := List.forall₂_cons_left_iff.mp reading
    cases rest
    have added : Setup.empty.addedModels calls = [pad "spare"] := by decide +kernel
    have shown : (Model.load (α := Float) (files "") firstFile.path).toOption.map (fun m =>
        (m.pixelCount, m.sensorThickness)) = some (⟨2, 2⟩, 1) := by
      decide +kernel
    rw [(ModelFile.reads_iff named).mp reads] at shown
    obtain ⟨count, thickness⟩ := Prod.mk.inj (Option.some.inj shown)
    rw [added] at models
    exact ⟨s', g, m, closing, models, reads,
      Model.typeName_of_load named ((ModelFile.reads_iff named).mp reads), count, thickness⟩
  · refine independent _ _ ?_ fun found searched file member result => ?_
    · exact (setup_searched _ _).trans (setup_searched _ _).symm
    · cases searched.symm.trans (setup_searched modelText "")
      rw [setup_deciding, List.mem_singleton] at member
      subst member
      rw [ModelFile.reads_iff named, ModelFile.reads_iff named]
      have same : Model.load (α := Float) (files "") firstFile.path =
          Model.load (files "broken") firstFile.path := by
        decide +kernel
      rw [same]
  · have broken : Model.load (α := Float) (shelves "broken" modelText) firstFile.path =
        .error (.malformed (some ⟨"/first/basic.conf"⟩) 1 .noEqualsSign) := by
      decide +kernel
    exact failing _ _ [] firstFile [] _ (setup_searched _ _) setup_deciding nofun
      ((ModelFile.reads_iff named).mpr broken)

end Sample

end DetectorGeometry
