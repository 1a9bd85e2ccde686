import DetectorGeometry.Proofs.Files.Entry
import DetectorGeometry.Proofs.Setup.ModelSources
import DetectorGeometry.Proofs.Text.Encoded

namespace DetectorGeometry

def EntryName.Names (name : EntryName) (typeName : String) : Prop :=
  typeName ≠ "" ∧ name.text = typeName ++ ".conf"

/-- The other file system lists directories in another order and otherwise gives the same answers
about what there is. -/
structure FileSystem.Reorders (files others : FileSystem) : Prop where
  isDirectory : files.isDirectory = others.isDirectory
  isFile : files.isFile = others.isFile
  list : ∀ p, Option.Rel List.Perm (files.list p) (others.list p)

namespace Path

theorem stem?_entry (p : Path) (name : EntryName) :
    (p.entry name).stem? = some (splitExtension name.text).1 := by
  rw [stem?, fileName?_entry]
  rfl

theorem extension?_entry (p : Path) (name : EntryName) :
    (p.entry name).extension? = (splitExtension name.text).2 := by
  rw [extension?, fileName?_entry]
  rfl

end Path

namespace EntryName

theorem names_iff {name : EntryName} {typeName : String} :
    name.Names typeName ↔ Path.splitExtension name.text = (typeName, some ModelFile.extension) := by
  rw [Path.splitExtension_eq_some]
  have undotted : '.' ∉ ModelFile.extension.toList := by decide
  have joined : typeName ++ "." ++ ModelFile.extension = typeName ++ ".conf" := String.append_assoc
  rw [joined]
  constructor
  · rintro ⟨nonempty, same⟩
    exact ⟨nonempty, undotted, same⟩
  · rintro ⟨nonempty, _, same⟩
    exact ⟨nonempty, same⟩

/-- The same name, or one whose bytes come later. -/
def UpTo (a b : EntryName) : Prop :=
  a = b ∨ a.text.toUTF8.data.toList < b.text.toUTF8.data.toList

theorem upTo_iff {a b : EntryName} : a.UpTo b ↔ a.text ≤ b.text := by
  rw [UpTo, Text.toUTF8_lt_toUTF8]
  constructor
  · rintro (rfl | less)
    · exact String.le_refl _
    · exact String.not_lt.mp (String.lt_asymm less)
  · intro le
    by_cases less : a.text < b.text
    · exact .inr less
    · exact .inl (ext (String.le_antisymm le (String.not_lt.mp less)))

theorem mergeSort_eq_iff {names sorted : List EntryName} :
    names.mergeSort (fun a b => decide (a.text ≤ b.text)) = sorted ↔
      names.Perm sorted ∧ sorted.Pairwise UpTo := by
  have isSorted : (names.mergeSort fun a b => decide (a.text ≤ b.text)).Pairwise UpTo := by
    have transitive (a b c : EntryName) (ab : decide (a.text ≤ b.text) = true)
        (bc : decide (b.text ≤ c.text) = true) : decide (a.text ≤ c.text) = true :=
      decide_eq_true (String.le_trans (of_decide_eq_true ab) (of_decide_eq_true bc))
    have total (a b : EntryName) :
        (decide (a.text ≤ b.text) || decide (b.text ≤ a.text)) = true := by
      simpa using String.le_total a.text b.text
    exact (List.pairwise_mergeSort transitive total names).imp fun le =>
      upTo_iff.mpr (of_decide_eq_true le)
  have same := List.mergeSort_perm names fun a b => decide (a.text ≤ b.text)
  constructor
  · rintro rfl
    exact ⟨same.symm, isSorted⟩
  · rintro ⟨perm, ascending⟩
    refine List.Perm.eq_of_pairwise ?_ isSorted ascending (same.trans perm)
    intro a b _ _ ab ba
    exact ext (String.le_antisymm (upTo_iff.mp ab) (upTo_iff.mp ba))

theorem mergeSort_congr {names others : List EntryName} (perm : names.Perm others) :
    names.mergeSort (fun a b => decide (a.text ≤ b.text)) =
      others.mergeSort fun a b => decide (a.text ≤ b.text) := by
  obtain ⟨same, ascending⟩ := mergeSort_eq_iff.mp (Eq.refl (others.mergeSort _))
  exact mergeSort_eq_iff.mpr ⟨perm.trans same, ascending⟩

end EntryName

namespace ModelFile

def IsModel (files : FileSystem) (p : Path) (name : EntryName) : Prop :=
  files.isFile (p.entry name) = true ∧ ∃ typeName, name.Names typeName

theorem isListed_iff {files : FileSystem} {p : Path} {name : EntryName} :
    isListed files (p.entry name) = true ↔ IsModel files p name := by
  rw [isListed, Bool.and_eq_true, Path.extension?_entry, beq_iff_eq]
  refine and_congr_right fun _ => ?_
  simp only [EntryName.names_iff]
  constructor
  · intro isModel
    exact ⟨_, Prod.ext rfl isModel⟩
  · rintro ⟨typeName, cut⟩
    rw [cut]

theorem ofPath_eq_ok {p : Path} {file : ModelFile} :
    ofPath p = .ok file ↔ p.stem? = some file.name ∧ file.path = p := by
  simp only [ofPath, Model.nameOfFile, Outcome.bind_eq_ok]
  cases p.stem? with
  | none => simp
  | some name =>
    constructor
    · rintro ⟨_, named, made⟩
      cases named
      cases made
      exact ⟨rfl, rfl⟩
    · rintro ⟨named, rfl⟩
      cases named
      exact ⟨_, rfl, rfl⟩

/-- What a search path stands for. Of a directory every entry counts that is a model file and no
other one does. -/
inductive Stands (files : FileSystem) (p : Path) : List ModelFile → Prop
  | file {name : String} : files.isDirectory p = false → p.stem? = some name →
      Stands files p [⟨name, p⟩]
  | directory {names chosen others : List EntryName} {group : List ModelFile} :
      files.isDirectory p = true → files.list p = some names → names.Perm (chosen ++ others) →
      (∀ name ∈ chosen, IsModel files p name) → (∀ name ∈ others, ¬IsModel files p name) →
      chosen.Pairwise EntryName.UpTo →
      List.Forall₂ (fun name file => name.Names file.name ∧ file.path = p.entry name) chosen group →
      Stands files p group

theorem ofPath_entry_eq_ok {p : Path} {name : EntryName} {file : ModelFile}
    (isModel : ∃ typeName, name.Names typeName) :
    ofPath (p.entry name) = .ok file ↔ name.Names file.name ∧ file.path = p.entry name := by
  obtain ⟨typeName, named⟩ := isModel
  have cut := EntryName.names_iff.mp named
  rw [ofPath_eq_ok, Path.stem?_entry, EntryName.names_iff, cut]
  simp

theorem sorted_eq_iff {files : FileSystem} {p : Path} {names chosen : List EntryName} :
    (names.filter fun name => isListed files (p.entry name)).mergeSort
        (fun a b => decide (a.text ≤ b.text)) = chosen ↔
      ∃ others, names.Perm (chosen ++ others) ∧ (∀ name ∈ chosen, IsModel files p name) ∧
        (∀ name ∈ others, ¬IsModel files p name) ∧ chosen.Pairwise EntryName.UpTo := by
  rw [EntryName.mergeSort_eq_iff]
  constructor
  · rintro ⟨perm, ascending⟩
    refine ⟨names.filter fun name => !isListed files (p.entry name), ?_, ?_, ?_, ascending⟩
    · exact (List.filter_append_perm _ names).symm.trans (perm.append_right _)
    · intro name member
      exact isListed_iff.mp (List.mem_filter.mp (perm.mem_iff.mpr member)).2
    · intro name member isModel
      have notListed := (List.mem_filter.mp member).2
      rw [isListed_iff.mpr isModel] at notListed
      cases notListed
  · rintro ⟨others, perm, areModels, noModels, ascending⟩
    have kept : chosen.filter (fun name => isListed files (p.entry name)) = chosen :=
      List.filter_eq_self.mpr fun name member => isListed_iff.mpr (areModels name member)
    have dropped : others.filter (fun name => isListed files (p.entry name)) = [] :=
      List.filter_eq_nil_iff.mpr fun name member listed =>
        noModels name member (isListed_iff.mp listed)
    have filtered := perm.filter fun name => isListed files (p.entry name)
    rw [List.filter_append, kept, dropped, List.append_nil] at filtered
    exact ⟨filtered, ascending⟩

theorem mapM_sorted_eq_ok {files : FileSystem} {p : Path} {names : List EntryName}
    {group : List ModelFile} :
    ((names.filter fun name => isListed files (p.entry name)).mergeSort
        (fun a b => decide (a.text ≤ b.text))).mapM (fun name => ofPath (p.entry name)) =
          .ok group ↔
      ∃ chosen others, names.Perm (chosen ++ others) ∧ (∀ name ∈ chosen, IsModel files p name) ∧
        (∀ name ∈ others, ¬IsModel files p name) ∧ chosen.Pairwise EntryName.UpTo ∧
        List.Forall₂ (fun name file => name.Names file.name ∧ file.path = p.entry name)
          chosen group := by
  constructor
  · intro made
    obtain ⟨others, perm, areModels, noModels, ascending⟩ := sorted_eq_iff.mp rfl
    have steps := (List.forall₂_and_left _ _).mpr ⟨areModels, Outcome.mapM_eq_ok.mp made⟩
    refine ⟨_, others, perm, areModels, noModels, ascending, steps.imp ?_⟩
    rintro name file ⟨isModel, step⟩
    exact (ofPath_entry_eq_ok isModel.2).mp step
  · rintro ⟨chosen, others, perm, areModels, noModels, ascending, named⟩
    rw [sorted_eq_iff.mpr ⟨others, perm, areModels, noModels, ascending⟩, Outcome.mapM_eq_ok]
    refine named.imp ?_
    rintro name file ⟨names, path⟩
    exact (ofPath_entry_eq_ok ⟨_, names⟩).mpr ⟨names, path⟩

theorem found_eq_ok {files : FileSystem} {p : Path} {group : List ModelFile} :
    found files p = .ok group ↔ Stands files p group := by
  unfold found
  split
  case isFalse notDirectory =>
    have notDirectory : files.isDirectory p = false := Bool.eq_false_iff.mpr notDirectory
    simp only [Outcome.bind_eq_ok, ofPath_eq_ok]
    constructor
    · rintro ⟨⟨name, _⟩, ⟨stem, rfl⟩, made⟩
      cases made
      exact .file notDirectory stem
    · intro stands
      cases stands with
      | file _ stem => exact ⟨_, ⟨stem, rfl⟩, rfl⟩
      | directory isDirectory => cases notDirectory.symm.trans isDirectory
  case isTrue isDirectory =>
    split
    case h_1 unlisted =>
      constructor
      · exact nofun
      · intro stands
        cases stands with
        | file notDirectory => cases notDirectory.symm.trans isDirectory
        | directory _ listed => cases unlisted.symm.trans listed
    case h_2 names listing =>
      refine mapM_sorted_eq_ok.trans ⟨?_, fun stands => ?_⟩
      · rintro ⟨chosen, others, perm, areModels, noModels, ascending, named⟩
        exact .directory isDirectory listing perm areModels noModels ascending named
      · cases stands with
        | file notDirectory => cases notDirectory.symm.trans isDirectory
        | directory _ listed perm areModels noModels ascending named =>
          cases listing.symm.trans listed
          exact ⟨_, _, perm, areModels, noModels, ascending, named⟩

/-- A path can be looked at: it is a directory that can be listed, or it has a file name. -/
def Readable (files : FileSystem) (p : Path) : Prop :=
  if files.isDirectory p then (files.list p).isSome = true else p.fileName?.isSome = true

theorem found_isOk_iff {files : FileSystem} {p : Path} :
    (∃ group, found files p = .ok group) ↔ Readable files p := by
  unfold Readable found
  split
  case isTrue =>
    cases files.list p with
    | none => simp
    | some names =>
      simp only [Option.isSome_some, iff_true, Outcome.mapM_ok_iff]
      intro name _
      exact ⟨⟨_, p.entry name⟩, ofPath_eq_ok.mpr ⟨p.stem?_entry name, rfl⟩⟩
  case isFalse =>
    simp only [Outcome.bind_eq_ok, ofPath_eq_ok]
    rw [Option.isSome_iff_exists]
    constructor
    · rintro ⟨_, file, ⟨stem, _⟩, _⟩
      obtain ⟨name, named, _⟩ := Option.map_eq_some_iff.mp stem
      exact ⟨name, named⟩
    · rintro ⟨name, named⟩
      have stem : p.stem? = some (Path.splitExtension name).1 := by rw [Path.stem?, named]; rfl
      exact ⟨_, ⟨_, p⟩, ⟨stem, rfl⟩, rfl⟩

theorem found_congr {files others : FileSystem} (reorders : files.Reorders others) (p : Path) :
    found files p = found others p := by
  have listed (name : EntryName) :
      isListed files (p.entry name) = isListed others (p.entry name) := by
    rw [isListed, isListed, reorders.isFile]
  have lists := reorders.list p
  unfold found
  rw [reorders.isDirectory, funext listed]
  generalize files.list p = first at lists ⊢
  generalize others.list p = second at lists ⊢
  cases lists with
  | none => rfl
  | some perm =>
    dsimp only
    rw [EntryName.mergeSort_congr (perm.filter _)]

theorem search_congr {files others : FileSystem} (reorders : files.Reorders others)
    (paths : List Path) : search files paths = search others paths := by
  unfold search
  rw [funext (found_congr reorders)]

theorem search_eq_ok {files : FileSystem} {paths : List Path} {listed : List ModelFile} :
    search files paths = .ok listed ↔
      ∃ groups, List.Forall₂ (Stands files) paths groups ∧ listed = groups.flatten := by
  simp only [search, Outcome.bind_eq_ok, Outcome.mapM_eq_ok, found_eq_ok]
  constructor
  · rintro ⟨groups, stand, made⟩
    cases made
    exact ⟨groups, stand, rfl⟩
  · rintro ⟨groups, stand, rfl⟩
    exact ⟨groups, stand, rfl⟩

theorem search_isOk_iff {files : FileSystem} {paths : List Path} :
    (∃ listed, search files paths = .ok listed) ↔ ∀ p ∈ paths, Readable files p := by
  have groups : (∃ groups, paths.mapM (found files) = .ok groups) ↔
      ∀ p ∈ paths, Readable files p := by
    simp only [Outcome.mapM_ok_iff, found_isOk_iff]
  rw [← groups]
  simp only [search, Outcome.bind_eq_ok]
  constructor
  · rintro ⟨_, groups, made, _⟩
    exact ⟨groups, made⟩
  · rintro ⟨groups, made⟩
    exact ⟨_, groups, made, rfl⟩

/-- A search succeeds if every directory among the paths can be listed and every other path has a
file name. It then gives what the paths stand for, one after another, under the names that the files
give to their models, and the order in which directories are listed makes no difference. -/
theorem search_complete {α : Type} [Scalar α] (files : FileSystem) (paths : List Path) :
    (∀ others, files.Reorders others → search files paths = search others paths) ∧
    ((∃ listed, search files paths = .ok listed) ↔ ∀ p ∈ paths, Readable files p) ∧
    (∀ listed, search files paths = .ok listed ↔
      ∃ groups, List.Forall₂ (Stands files) paths groups ∧ listed = groups.flatten) ∧
    ∀ listed, search files paths = .ok listed → ∀ file ∈ listed,
      Model.nameOfFile file.path = .ok file.name ∧
      ∀ m : Model α, Model.load files file.path = .ok m → m.typeName = file.name := by
  refine ⟨fun others reorders => search_congr reorders paths, search_isOk_iff,
    fun listed => search_eq_ok, ?_⟩
  intro listed searched file member
  have named := nameOfFile_of_search searched member
  exact ⟨named, fun m read => Model.typeName_of_load named read⟩

end ModelFile

namespace Sample

def shelf : FileSystem :=
  ([["b.conf"], [".conf"], ["notes.txt"], ["a.v2.conf"], ["nested.conf", "c.conf"]].foldl
    (fun tree name => tree.addFile ("models" :: name) modelText.toUTF8) FileTree.empty).system

def reversedShelf : FileSystem := { shelf with list := fun p => (shelf.list p).map List.reverse }

theorem shelf_reorders : shelf.Reorders reversedShelf where
  isDirectory := rfl
  isFile := rfl
  list p := by
    show Option.Rel _ _ ((shelf.list p).map List.reverse)
    cases shelf.list p with
    | none => exact .none
    | some names => exact .some (List.reverse_perm names).symm

def shelfModels : List EntryName :=
  [⟨"a.v2.conf", by decide, by decide⟩, ⟨"b.conf", by decide, by decide⟩]

def shelfOthers : List EntryName :=
  [⟨".conf", by decide, by decide⟩, ⟨"nested.conf", by decide, by decide⟩,
   ⟨"notes.txt", by decide, by decide⟩]

theorem shelf_stands :
    ModelFile.Stands shelf ⟨"/models"⟩
      [⟨"a.v2", ⟨"/models/a.v2.conf"⟩⟩, ⟨"b", ⟨"/models/b.conf"⟩⟩] := by
  obtain ⟨names, listed⟩ := Option.isSome_iff_exists.mp
    (show (shelf.list ⟨"/models"⟩).isSome = true by decide +kernel)
  have perm : names.Perm (shelfModels ++ shelfOthers) := by
    have perms : ∀ names ∈ shelf.list ⟨"/models"⟩, names.Perm (shelfModels ++ shelfOthers) := by
      decide +kernel
    exact perms names listed
  have areListed : ∀ name ∈ shelfModels,
      ModelFile.isListed shelf (Path.entry ⟨"/models"⟩ name) = true := by decide +kernel
  have notListed : ∀ name ∈ shelfOthers,
      ModelFile.isListed shelf (Path.entry ⟨"/models"⟩ name) = false := by decide +kernel
  refine .directory (by decide +kernel) listed perm ?_ ?_ ?_ ?_
  · intro name member
    exact ModelFile.isListed_iff.mp (areListed name member)
  · intro name member isModel
    cases (notListed name member).symm.trans (ModelFile.isListed_iff.mpr isModel)
  · have ascending : shelfModels.Pairwise fun a b => a.text ≤ b.text := by decide
    exact ascending.imp EntryName.upTo_iff.mpr
  · exact .cons ⟨⟨by decide, rfl⟩, by decide +kernel⟩
      (.cons ⟨⟨by decide, rfl⟩, by decide +kernel⟩ .nil)

def shelfFiles : List ModelFile :=
  [⟨"a.v2", ⟨"/models/a.v2.conf"⟩⟩, ⟨"b", ⟨"/models/b.conf"⟩⟩, ⟨"absent", ⟨"/absent.conf"⟩⟩]

/-- The search finds the model files of the directory in order and the path behind it, in whatever
order the directory is listed, and a model read from one of the files has the name found. -/
theorem shelf_found :
    ModelFile.search shelf [⟨"/models"⟩, ⟨"/absent.conf"⟩] = .ok shelfFiles ∧
    ModelFile.search reversedShelf [⟨"/models"⟩, ⟨"/absent.conf"⟩] = .ok shelfFiles ∧
    ModelFile.Readable shelf ⟨"/absent.conf"⟩ ∧
    ∃ m : Model Float, Model.load shelf ⟨"/models/a.v2.conf"⟩ = .ok m ∧ m.typeName = "a.v2" := by
  obtain ⟨independent, succeeds, complete, named⟩ :=
    ModelFile.search_complete (α := Float) shelf [⟨"/models"⟩, ⟨"/absent.conf"⟩]
  have searched : ModelFile.search shelf [⟨"/models"⟩, ⟨"/absent.conf"⟩] = .ok shelfFiles := by
    refine (complete shelfFiles).mpr ⟨_, .cons shelf_stands (.cons (.file ?_ ?_) .nil), rfl⟩
    · decide +kernel
    · decide +kernel
  have reads : (Model.load (α := Float) shelf ⟨"/models/a.v2.conf"⟩).isOk = true := by
    decide +kernel
  obtain ⟨m, read⟩ := Outcome.isOk_iff.mp reads
  exact ⟨searched, (independent _ shelf_reorders).symm.trans searched,
    succeeds.mp ⟨_, searched⟩ _ (by simp), m, read,
    (named _ searched ⟨"a.v2", _⟩ List.mem_cons_self).2 m read⟩

end Sample

end DetectorGeometry
