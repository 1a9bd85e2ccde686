import DetectorGeometry.Proofs.Outcome
import DetectorGeometry.Proofs.Settings.Values
import DetectorGeometry.Proofs.Text.Lines
import DetectorGeometry.Setup.Load

namespace DetectorGeometry

namespace Section

/-- What an element of a list of paths stands for. A relative path is seen from the directory of the
file that the section comes from. -/
inductive Means (settings : Section) (element : String) : Path → Prop where
  | absolute (rooted : Path.isAbsolute ⟨element⟩ = true) : Means settings element ⟨element⟩
  | relative {file directory : Path} (source : settings.path = some file)
      (base : file.parent? = some directory) (free : Path.isAbsolute ⟨element⟩ = false) :
      Means settings element (directory.join ⟨element⟩)
  | baseless (none : settings.path.bind Path.parent? = none) : Means settings element ⟨element⟩

theorem means_iff {settings : Section} {element : String} {p : Path} :
    settings.Means element p ↔ p = settings.resolve ⟨element⟩ := by
  rw [resolve]
  constructor
  · intro means
    cases means with
    | absolute rooted =>
      split
      · rw [Path.join, if_pos rooted]
      · rfl
    | relative source base free => rw [source, Option.bind_some, base]
    | baseless none => rw [none]
  · rintro rfl
    split
    case h_1 directory based =>
      obtain ⟨file, source, base⟩ := Option.bind_eq_some_iff.mp based
      cases absolute : Path.isAbsolute ⟨element⟩ with
      | true =>
        rw [Path.join, if_pos absolute]
        exact .absolute absolute
      | false => exact .relative source base absolute
    case h_2 none => exact .baseless none

/-- Where the elements of `model_paths` lead, in their order. -/
inductive Configures (files : FileSystem) (global : Section) : List Path → Prop where
  | none (undefined : global.settings.get? "model_paths" = none) : Configures files global []
  | listed {text elements configured}
      (defined : global.settings.get? "model_paths" = some text)
      (read : Reading.strings text = .ok elements)
      (found : List.Forall₂ (fun element path =>
        ∃ p, global.Means element p ∧ files.canonical p = some path) elements configured) :
      Configures files global configured

/-- Why `model_paths` cannot be used: its text is no list, or an element leads nowhere. -/
inductive PathsFail (files : FileSystem) (global : Section) : SettingsError → Prop where
  | unread {text fault} (defined : global.settings.get? "model_paths" = some text)
      (failed : Reading.strings text = .error fault) :
      PathsFail files global (.invalidType global.label "model_paths" text fault)
  | absent {text before element after p}
      (defined : global.settings.get? "model_paths" = some text)
      (read : Reading.strings text = .ok (before ++ element :: after))
      (found : ∀ other ∈ before, ∃ path q, global.Means other q ∧ files.canonical q = some path)
      (means : global.Means element p) (absent : files.canonical p = none) :
      PathsFail files global (.invalidValue global.label "model_paths" (.absentPath p))

def pathOf (files : FileSystem) (settings : Section) (key element : String) :
    Except SettingsError Path :=
  match files.canonical (settings.resolve ⟨element⟩) with
  | some canonical => .ok canonical
  | none => .error (settings.invalid key (.absentPath (settings.resolve ⟨element⟩)))

theorem existingPaths_eq (files : FileSystem) (settings : Section) (key : String) :
    settings.existingPaths files key =
      settings.get .strings key >>= fun elements => elements.mapM (settings.pathOf files key) := by
  simp only [existingPaths, paths, bind_assoc, pure_bind, List.mapM_map]
  rfl

theorem pathOf_eq_ok {files : FileSystem} {settings : Section} {key element : String}
    {path : Path} :
    settings.pathOf files key element = .ok path ↔
      ∃ p, settings.Means element p ∧ files.canonical p = some path := by
  simp only [means_iff, exists_eq_left, pathOf]
  split
  case h_1 canonical found => rw [Except.ok.injEq, found, Option.some.injEq]
  case h_2 absent => simp [absent]

theorem pathOf_eq_error {files : FileSystem} {settings : Section} {key element : String}
    {e : SettingsError} :
    settings.pathOf files key element = .error e ↔
      ∃ p, settings.Means element p ∧ files.canonical p = none ∧
        e = .invalidValue settings.label key (.absentPath p) := by
  simp only [means_iff, exists_eq_left, pathOf]
  split
  case h_1 found => simp [found]
  case h_2 absent => rw [Except.error.injEq, eq_comm, and_iff_right absent, invalid]

end Section

theorem configuredPaths_eq_ok {files : FileSystem} {global : Section} {configured : List Path} :
    Setup.configuredPaths files global = .ok configured ↔ global.Configures files configured := by
  rw [Setup.configuredPaths]
  cases defined : global.has "model_paths" with
  | false =>
    rw [if_neg Bool.false_ne_true, Except.ok.injEq]
    constructor
    · rintro rfl
      exact .none (Section.has_eq_false.mp defined)
    · rintro (_ | ⟨defined', _, _⟩)
      · rfl
      · cases defined.symm.trans (Section.has_of_get? defined')
  | true =>
    simp only [if_true, Section.existingPaths_eq, Outcome.bind_eq_ok, Outcome.mapM_eq_ok,
      Section.pathOf_eq_ok, Section.get_eq_ok]
    constructor
    · rintro ⟨elements, ⟨text, defined, read⟩, found⟩
      exact .listed defined read found
    · rintro (undefined | ⟨defined, read, found⟩)
      · cases defined.symm.trans (Section.has_eq_false.mpr undefined)
      · exact ⟨_, ⟨_, defined, read⟩, found⟩

theorem configuredPaths_eq_error {files : FileSystem} {global : Section} {e : SettingsError} :
    Setup.configuredPaths files global = .error e ↔ global.PathsFail files e := by
  rw [Setup.configuredPaths]
  cases defined : global.has "model_paths" with
  | false =>
    rw [if_neg Bool.false_ne_true]
    constructor
    · exact nofun
    · rintro (⟨defined', _⟩ | ⟨defined', _⟩)
      all_goals cases defined.symm.trans (Section.has_of_get? defined')
  | true =>
    rw [if_pos rfl, Section.existingPaths_eq, Outcome.bind_eq_error]
    simp only [Outcome.mapM_eq_error, Section.pathOf_eq_error, Section.pathOf_eq_ok]
    constructor
    · rintro (failed | ⟨_, read, before, element, after, rfl, found, p, means, absent, rfl⟩)
      · rcases Section.get_eq_error.mp failed with ⟨undefined, _⟩ | ⟨_, _, defined, unread, rfl⟩
        · cases defined.symm.trans (Section.has_eq_false.mpr undefined)
        · exact .unread defined unread
      · obtain ⟨_, defined, read⟩ := Section.get_eq_ok.mp read
        exact .absent defined read found means absent
    · rintro (⟨defined, failed⟩ | ⟨defined, read, found, means, absent⟩)
      · exact .inl (Section.get_eq_error.mpr (.inr ⟨_, _, defined, failed, rfl⟩))
      · exact .inr ⟨_, Section.get_eq_ok.mpr ⟨_, defined, read⟩, _, _, _, rfl, found, _, means,
          absent, rfl⟩

namespace Environment

/-- The list of data directories that counts. An empty one counts as none. -/
inductive Lists (env : Environment) : String → Prop where
  | set {directories} (isSet : env.dataDirectories = some directories)
      (nonempty : directories ≠ "") : Lists env directories
  | standard (unset : env.dataDirectories = none ∨ env.dataDirectories = some "") :
      Lists env "/usr/local/share/:/usr/share/"

/-- The standard search paths: the directory of the library and those for models below the data
directories, as far as there are such directories. -/
def Offers (env : Environment) (standard : List Path) : Prop :=
  ∃ (directories : String) (entries : List String), env.Lists directories ∧
    ":".intercalate entries = directories ∧ (∀ entry ∈ entries, ':' ∉ entry.toList) ∧
    standard = (env.builtinModels :: (entries.filter (· ≠ "")).map fun entry =>
      (Path.join ⟨entry⟩ ⟨"allpix"⟩).join ⟨"models"⟩).filter env.files.isDirectory

theorem exists_lists (env : Environment) :
    ∃ directories, env.Lists directories ∧
      env.dataPaths = ((Text.split ':' directories.toList).filter (!·.isEmpty)).map
        fun entry => ⟨String.ofList entry⟩ := by
  cases isSet : env.dataDirectories with
  | none => exact ⟨_, .standard (.inl isSet), by rw [dataPaths, isSet]; rfl⟩
  | some directories =>
    by_cases empty : directories = ""
    · subst empty
      exact ⟨_, .standard (.inr isSet), by rw [dataPaths, isSet]; rfl⟩
    · refine ⟨_, .set isSet empty, ?_⟩
      rw [dataPaths, isSet, Option.getD_some, if_neg (mt String.isEmpty_iff.mp empty)]

theorem offers_modelPaths (env : Environment) : env.Offers env.modelPaths := by
  obtain ⟨directories, lists, paths⟩ := env.exists_lists
  refine ⟨directories, (Text.split ':' directories.toList).map String.ofList, lists, ?_, ?_, ?_⟩
  · apply String.toList_injective
    rw [String.toList_intercalate, List.map_map]
    simpa [Function.comp_def] using Text.intercalate_split ':' directories.toList
  · intro entry member
    obtain ⟨piece, inPieces, rfl⟩ := List.mem_map.mp member
    rw [String.toList_ofList]
    exact Text.notMem_of_mem_split inPieces
  · have named : ((· ≠ "") ∘ String.ofList : List Char → Bool) = (!·.isEmpty) := by
      funext piece
      cases piece <;> simp
    rw [modelPaths, paths, List.filter_map, List.map_map, List.map_map, named]
    rfl

end Environment

end DetectorGeometry
