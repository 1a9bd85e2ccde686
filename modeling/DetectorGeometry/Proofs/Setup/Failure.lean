import DetectorGeometry.Proofs.Setup.Sharing

/-!
When closing a setup fails, and with which error (`Setup.FailsWith`). The search paths come first,
then the files that decide about a type, then the types in ascending order; within a type the
detectors follow in the order of registration. Nothing else can fail once these have gone well.
-/
namespace DetectorGeometry

variable {α : Type} [Scalar α]

/-- The model does not take the changes that a detector section asks for. -/
def Model.Refuses (m : Model α) (settings : Section) (e : SettingsError) : Prop :=
  settings.overrides.isEmpty = false ∧ m.specialize settings.overrides = .error e

namespace Resolution

def requestFault (generic : Model α) (request : Request) : Option Error :=
  if request.settings.overrides.isEmpty then none
  else Outcome.fault? (Error.ofSettings (generic.specialize request.settings.overrides))

def typeFault (c : Catalogue α) (entry : String × List Request) : Option Error :=
  match c.get? entry.1 with
  | none => some (.geometry (.unknownModel entry.1))
  | some generic => entry.2.findSome? (requestFault generic.value)

theorem requestFault_eq_some {generic : Model α} {request : Request} {e : Error} :
    requestFault generic request = some e ↔
      ∃ cause, generic.Refuses request.settings cause ∧ e = .settings cause := by
  unfold requestFault Model.Refuses
  split
  case isTrue unchanged => simp [unchanged]
  case isFalse changed =>
    rw [Outcome.fault?_eq_some, Outcome.ofSettings_eq_error]
    simp [changed]

theorem requestFault_eq_none {generic : Model α} {request : Request} :
    requestFault generic request = none ↔ ∀ cause, ¬ generic.Refuses request.settings cause := by
  constructor
  · intro fine cause refuses
    have failed := requestFault_eq_some.mpr ⟨cause, refuses, rfl⟩
    rw [fine] at failed
    cases failed
  · intro accepted
    cases fault : requestFault generic request with
    | none => rfl
    | some e =>
      obtain ⟨cause, refuses, _⟩ := requestFault_eq_some.mp fault
      exact absurd refuses (accepted cause)

variable {c : Catalogue α} {served : List (String × Request)} {r : Resolution α}

/-- Whether a request fails does not depend on the specializations made before it: where one can be
shared, making it again would go well, too. -/
theorem Sound.fault?_serve (sound : Sound c served r) {typeName : String}
    {generic : Shared (Model α)} (known : c.get? typeName = some generic) (request : Request) :
    Outcome.fault? (Resolution.serve c.size typeName generic r request) =
      requestFault generic.value request := by
  simp only [Resolution.serve, requestFault]
  split
  case isTrue => rfl
  case isFalse =>
    split
    case h_1 earlier found =>
      obtain ⟨member, rfl, sameChanges⟩ := find?_eq_some found
      obtain ⟨_, generic', known', specialized⟩ := sound.specialized member
      obtain rfl := Option.some.inj (known.symm.trans known')
      rw [sameChanges] at specialized
      have made : generic.value.specialize request.settings.overrides = .ok earlier.model.value :=
        specialized
      rw [made]
      rfl
    case h_2 =>
      cases generic.value.specialize request.settings.overrides <;> rfl

theorem Sound.fault?_serveType (sound : Sound c served r) (entry : String × List Request) :
    Outcome.fault? (Resolution.serveType c r entry) = typeFault c entry := by
  unfold Resolution.serveType typeFault
  cases known : c.get? entry.1 with
  | none => rfl
  | some generic =>
    apply Outcome.fault?_foldlM (fun r => ∃ served, Sound c served r) _ entry.2 _ _
      ⟨served, sound⟩
    · rintro r request _ r' ⟨earlier, sound⟩ answered
      exact ⟨_, sound.serve known answered⟩
    · rintro r request _ ⟨earlier, sound⟩
      exact sound.fault?_serve known request

theorem fault?_resolve (s : Setup α) (c : Catalogue α) :
    Outcome.fault? (s.resolve c) = s.requests.entries.findSome? (typeFault c) := by
  apply Outcome.fault?_foldlM (fun r => ∃ served, Sound c served r) _ s.requests.entries _ _
    ⟨[], sound_empty⟩
  · rintro r entry _ r' ⟨earlier, sound⟩ answered
    exact ⟨_, sound.serveType answered⟩
  · rintro r entry _ ⟨earlier, sound⟩
    exact sound.fault?_serveType entry

end Resolution

namespace Setup

/-- The generic model of a type: the one that was added, or else that of the first file found under
the name of the type. -/
def generic? (files : FileSystem) (s : Setup α) (found : List ModelFile) (typeName : String) :
    Option (Model α) :=
  (s.models.models.find? (·.typeName == typeName)).or
    ((found.find? (·.name == typeName)).bind fun file => (Model.load files file.path).toOption)

/-- The errors that a type fails with: there is no model of it, or the model refuses the changes of
a detector and of no detector registered before that one. -/
inductive TypeFails (files : FileSystem) (s : Setup α) (found : List ModelFile)
    (typeName : String) : Error → Prop
  | unknown (lacking : s.lacks typeName = true) (missing : ∀ file ∈ found, file.name ≠ typeName) :
    TypeFails files s found typeName (.geometry (.unknownModel typeName))
  | refused {generic : Model α} {number : Nat} {settings : Section} {e : SettingsError}
    (known : s.generic? files found typeName = some generic)
    (asks : s.Asks number typeName settings) (refuses : generic.Refuses settings e)
    (first : ∀ earlier others cause, s.Asks earlier typeName others → earlier < number →
      ¬ generic.Refuses others cause) :
    TypeFails files s found typeName (.settings e)

/-- The errors that closing fails with: that of the search, or else that of the first file that has
to be read and cannot be, or else that of the least type that fails. -/
inductive FailsWith (files : FileSystem) (s : Setup α) : Error → Prop
  | search {e : SettingsError} (failed : ModelFile.search files s.modelPaths = .error e) :
    FailsWith files s (.settings e)
  | file {found before after : List ModelFile} {file : ModelFile} {e : SettingsError}
    (searched : ModelFile.search files s.modelPaths = .ok found)
    (deciding : ModelFile.firsts s.lacks found = before ++ file :: after)
    (first : ∀ earlier ∈ before, ∃ m : Model α, Model.load files earlier.path = .ok m)
    (failed : Model.load (α := α) files file.path = .error e) :
    FailsWith files s (.settings e)
  | type {found : List ModelFile} {typeName : String} {e : Error}
    (searched : ModelFile.search files s.modelPaths = .ok found)
    (readable : ∀ file ∈ ModelFile.firsts s.lacks found,
      ∃ m : Model α, Model.load files file.path = .ok m)
    (fails : s.TypeFails files found typeName e)
    (least : ∀ other cause, other < typeName → ¬ s.TypeFails files found other cause) :
    FailsWith files s e

/-- What keeps a setup from closing. -/
inductive Blocked (files : FileSystem) (s : Setup α) : Prop
  | search {e : SettingsError} (failed : ModelFile.search files s.modelPaths = .error e)
  | file {found : List ModelFile} {typeName : String} {file : ModelFile} {e : SettingsError}
    (searched : ModelFile.search files s.modelPaths = .ok found)
    (lacking : s.lacks typeName = true) (first : found.find? (·.name == typeName) = some file)
    (failed : Model.load (α := α) files file.path = .error e)
  | unknown {found : List ModelFile} {typeName : String}
    (searched : ModelFile.search files s.modelPaths = .ok found)
    (lacking : s.lacks typeName = true) (missing : ∀ file ∈ found, file.name ≠ typeName)
  | refused {found : List ModelFile} {number : Nat} {typeName : String} {settings : Section}
    {generic : Model α} {e : SettingsError}
    (searched : ModelFile.search files s.modelPaths = .ok found)
    (asks : s.Asks number typeName settings)
    (known : s.generic? files found typeName = some generic)
    (refuses : generic.Refuses settings e)

/-- The search finds the files `found`, and those that decide give the models `read`. -/
structure Reads (files : FileSystem) (s : Setup α) (found : List ModelFile)
    (read : List (Model α)) : Prop where
  searched : ModelFile.search files s.modelPaths = .ok found
  loaded : (ModelFile.firsts s.lacks found).mapM (fun file => Model.load files file.path) = .ok read

section Read

variable {files : FileSystem} {s : Setup α} {found : List ModelFile} {read : List (Model α)}

theorem Reads.readable (reads : s.Reads files found read) :
    ∀ file ∈ ModelFile.firsts s.lacks found, ∃ m : Model α, Model.load files file.path = .ok m :=
  Outcome.mapM_ok_iff.mp ⟨read, reads.loaded⟩

theorem Reads.get?_value (reads : s.Reads files found read) {typeName : String}
    (wanted : s.hasModel typeName = false → s.lacks typeName = true) :
    ((⟨s.models.models ++ read⟩ : Catalogue α).get? typeName).map (·.value) =
      s.generic? files found typeName := by
  rw [Catalogue.get?_value, List.find?_append, generic?]
  cases added : s.models.models.find? (·.typeName == typeName) with
  | some m => rfl
  | none =>
    have agree : ∀ file ∈ ModelFile.firsts s.lacks found, ∀ m : Model α,
        Model.load files file.path = .ok m → (m.typeName == typeName) = (file.name == typeName) := by
      intro file member m loaded
      have listed := ModelFile.mem_of_mem_firsts member
      rw [Model.typeName_of_load (ModelFile.nameOfFile_of_search reads.searched listed) loaded]
    have lacking := wanted (hasModel_eq_false.mpr added)
    rw [Outcome.find?_mapM agree reads.loaded, ModelFile.find?_firsts, if_pos lacking]

theorem Reads.generic?_eq_none (reads : s.Reads files found read) {typeName : String}
    (wanted : s.hasModel typeName = false → s.lacks typeName = true) :
    s.generic? files found typeName = none ↔
      s.lacks typeName = true ∧ ∀ file ∈ found, file.name ≠ typeName := by
  rw [generic?, Option.or_eq_none_iff, ← hasModel_eq_false]
  constructor
  · rintro ⟨unknown, unread⟩
    refine ⟨wanted unknown, fun file member same => ?_⟩
    cases first : found.find? (·.name == typeName) with
    | none =>
      have differs := List.find?_eq_none.mp first file member
      exact differs (by simp [same])
    | some decider =>
      obtain rfl : decider.name = typeName := by simpa using List.find?_some first
      obtain ⟨m, loaded⟩ := reads.readable decider (ModelFile.mem_firsts.mpr ⟨wanted unknown, first⟩)
      simp [first, loaded, Except.toOption] at unread
  · rintro ⟨lacking, missing⟩
    have unfound : found.find? (·.name == typeName) = none :=
      List.find?_eq_none.mpr fun file member => by simpa using missing file member
    simp only [lacks, Bool.and_eq_true, Bool.not_eq_true'] at lacking
    rw [unfound]
    exact ⟨lacking.2, rfl⟩

theorem Consistent.typeFault_eq_some (sound : s.Consistent)
    (reads : s.Reads files found read) {typeName : String} {requests : List Request}
    (requested : s.requests.get? typeName = some requests) {e : Error} :
    Resolution.typeFault ⟨s.models.models ++ read⟩ (typeName, requests) = some e ↔
      s.TypeFails files found typeName e := by
  have wanted := sound.lacks_of_requested requested
  have generic := reads.get?_value wanted
  have absent := reads.generic?_eq_none wanted
  unfold Resolution.typeFault
  cases known : (⟨s.models.models ++ read⟩ : Catalogue α).get? typeName with
  | none =>
    rw [known, Option.map_none, eq_comm, absent] at generic
    constructor
    · intro fault
      cases fault
      exact .unknown generic.1 generic.2
    · intro fails
      cases fails with
      | unknown _ _ => rfl
      | refused known' _ _ _ =>
        rw [absent.mpr generic] at known'
        cases known'
  | some model =>
    rw [known, Option.map_some, eq_comm] at generic
    have ascending := sound.ordered requested
    simp only [Outcome.findSome?_ascending (fun request => Nat.lt_irrefl request.draft)
      (fun _ _ => Nat.lt_asymm) ascending, Resolution.requestFault_eq_some,
      Resolution.requestFault_eq_none]
    constructor
    · rintro ⟨request, member, ⟨cause, refuses, rfl⟩, first⟩
      refine .refused generic ⟨requests, requested, member⟩ refuses ?_
      rintro earlier others cause' ⟨requests', requested', member'⟩ less
      obtain rfl := Option.some.inj (requested.symm.trans requested')
      exact first _ member' less cause'
    · intro fails
      cases fails with
      | unknown lacking missing =>
        rw [absent.mpr ⟨lacking, missing⟩] at generic
        cases generic
      | @refused _ number settings cause known' asks refuses first =>
        obtain rfl := Option.some.inj (generic.symm.trans known')
        obtain ⟨requests', requested', member⟩ := asks
        obtain rfl := Option.some.inj (requested.symm.trans requested')
        refine ⟨_, member, ⟨cause, refuses, rfl⟩, fun request member' less cause' => ?_⟩
        exact first request.draft _ cause' ⟨requests, requested, member'⟩ less

theorem exists_typeFails {generic : Model α} {number : Nat} {typeName : String}
    {settings : Section} {e : SettingsError}
    (known : s.generic? files found typeName = some generic)
    (asks : s.Asks number typeName settings) (refuses : generic.Refuses settings e) :
    ∃ cause, s.TypeFails files found typeName cause := by
  -- Of the detectors whose changes are refused, go down to the one with the least number.
  induction number using Nat.strongRecOn generalizing settings e with
  | ind number ih =>
    by_cases earlier : ∃ before others cause, s.Asks before typeName others ∧ before < number ∧
        generic.Refuses others cause
    · obtain ⟨before, others, cause, asks', less, refuses'⟩ := earlier
      exact ih before less asks' refuses'
    · refine ⟨_, .refused known asks refuses fun before others cause asks' less refuses' => ?_⟩
      exact earlier ⟨before, others, cause, asks', less, refuses'⟩

theorem Consistent.requested_of_typeFails (sound : s.Consistent) {typeName : String} {e : Error}
    (fails : s.TypeFails files found typeName e) :
    ∃ requests, s.requests.get? typeName = some requests := by
  cases fails with
  | unknown lacking _ =>
    obtain ⟨⟨_, _, requests, requested, _⟩, _⟩ := sound.lacks_iff.mp lacking
    exact ⟨requests, requested⟩
  | refused _ asks _ _ =>
    obtain ⟨requests, requested, _⟩ := asks
    exact ⟨requests, requested⟩

theorem Consistent.resolve_eq_error (sound : s.Consistent)
    (reads : s.Reads files found read) {e : Error} :
    s.resolve ⟨s.models.models ++ read⟩ = .error e ↔
      ∃ typeName, s.TypeFails files found typeName e ∧
        ∀ other cause, other < typeName → ¬ s.TypeFails files found other cause := by
  rw [← Outcome.fault?_eq_some, Resolution.fault?_resolve, Outcome.findSome?_ascending
    (fun entry => String.lt_irrefl entry.1) (fun _ _ => String.lt_asymm) s.requests.ascending]
  constructor
  · rintro ⟨⟨typeName, requests⟩, member, fault, least⟩
    have requested := (Table.mem_entries_iff _ _ _).mp member
    refine ⟨typeName, (sound.typeFault_eq_some reads requested).mp fault, ?_⟩
    intro other cause less fails
    obtain ⟨others, requested'⟩ := sound.requested_of_typeFails fails
    have clear := least (other, others) ((Table.mem_entries_iff _ _ _).mpr requested') less
    rw [(sound.typeFault_eq_some reads requested').mpr fails] at clear
    cases clear
  · rintro ⟨typeName, fails, least⟩
    obtain ⟨requests, requested⟩ := sound.requested_of_typeFails fails
    refine ⟨(typeName, requests), (Table.mem_entries_iff _ _ _).mpr requested,
      (sound.typeFault_eq_some reads requested).mpr fails, ?_⟩
    rintro ⟨other, others⟩ member less
    apply Option.eq_none_iff_forall_ne_some.mpr
    intro cause fault
    have requested' := (Table.mem_entries_iff _ _ _).mp member
    exact least other cause less
      ((sound.typeFault_eq_some reads requested').mp fault)

theorem Consistent.not_typeFails (sound : s.Consistent) (reads : s.Reads files found read)
    {r : Resolution α} (resolved : s.resolve ⟨s.models.models ++ read⟩ = .ok r) (typeName : String)
    (e : Error) : ¬ s.TypeFails files found typeName e := by
  intro fails
  obtain ⟨requests, requested⟩ := sound.requested_of_typeFails fails
  have clear := Outcome.fault?_eq_none.mpr ⟨r, resolved⟩
  rw [Resolution.fault?_resolve, List.findSome?_eq_none_iff] at clear
  have fault := (sound.typeFault_eq_some reads requested).mpr fails
  rw [clear _ ((Table.mem_entries_iff _ _ _).mpr requested)] at fault
  cases fault

theorem Consistent.loadModels_eq_ok (sound : s.Consistent) {c : Catalogue α} :
    s.loadModels files = .ok c ↔
      ∃ found read, s.Reads files found read ∧ c = ⟨s.models.models ++ read⟩ := by
  simp only [sound.loadModels_eq, Outcome.bind_eq_ok, Outcome.ofSettings_eq_ok]
  constructor
  · rintro ⟨found, searched, read, loaded, equal⟩
    cases equal
    exact ⟨found, read, ⟨searched, loaded⟩, rfl⟩
  · rintro ⟨found, read, reads, rfl⟩
    exact ⟨found, reads.searched, read, reads.loaded, rfl⟩

theorem Consistent.loadModels_eq_error (sound : s.Consistent) {e : Error} :
    s.loadModels files = .error e ↔
      (∃ cause, ModelFile.search files s.modelPaths = .error cause ∧ e = .settings cause) ∨
      ∃ found, ModelFile.search files s.modelPaths = .ok found ∧
        ∃ cause, (ModelFile.firsts s.lacks found).mapM
          (fun file => Model.load (α := α) files file.path) = .error cause ∧
          e = .settings cause := by
  simp only [sound.loadModels_eq, Outcome.bind_eq_error, Outcome.ofSettings_eq_error,
    Outcome.ofSettings_eq_ok, reduceCtorEq, and_false, exists_false, or_false]

theorem Consistent.finishDraft_ok (sound : s.Consistent) {c : Catalogue α} {r : Resolution α}
    (resolved : s.resolve c = .ok r) {number : Nat} {draft : Draft α}
    (known : s.drafts[number]? = some draft) :
    ∃ detector, finishDraft r draft number = .ok detector := by
  obtain ⟨settings, asks⟩ := sound.asking known
  obtain ⟨model, found, _⟩ := sound.model?_eq_some (resolve_sound resolved) asks
  simp [finishDraft, found]

theorem Consistent.assemble_eq_error (sound : s.Consistent) {e : Error} :
    s.assemble files = .error e ↔
      s.loadModels files = .error e ∨
        ∃ c, s.loadModels files = .ok c ∧ s.resolve c = .error e := by
  simp only [assemble, Outcome.bind_eq_error]
  refine or_congr_right (exists_congr fun c => and_congr_right fun _ => or_iff_left ?_)
  rintro ⟨r, resolved, failed | ⟨_, _, impossible⟩⟩
  · rw [sound.numbered_eq] at failed
    obtain ⟨before, ⟨draft, number⟩, after, all, _, fault⟩ := Outcome.mapM_eq_error.mp failed
    have member : (draft, number) ∈ s.drafts.zipIdx := by simp [all]
    obtain ⟨detector, finished⟩ :=
      sound.finishDraft_ok resolved (List.mem_zipIdx_iff_getElem?.mp member)
    cases finished.symm.trans fault
  · cases impossible

end Read

theorem close_eq_error {s : Setup α} (isOpen : s.isClosed = false) {files : FileSystem}
    {e : Error} : (s.close files).2 = .error e ↔ s.assemble files = .error e := by
  simp only [close, closed?_eq_none.mpr isOpen]
  cases s.assemble files <;> simp

theorem Consistent.close_eq_error_iff {s : Setup α} (sound : s.Consistent)
    (isOpen : s.isClosed = false) {files : FileSystem} {e : Error} :
    (s.close files).2 = .error e ↔ s.FailsWith files e := by
  rw [close_eq_error isOpen, sound.assemble_eq_error, sound.loadModels_eq_error]
  constructor
  · rintro ((⟨cause, failed, rfl⟩ | ⟨found, searched, cause, failed, rfl⟩) | ⟨c, loaded, failed⟩)
    · exact .search failed
    · obtain ⟨before, file, after, deciding, first, failed⟩ := Outcome.mapM_eq_error.mp failed
      exact .file searched deciding first failed
    · obtain ⟨found, read, reads, rfl⟩ := sound.loadModels_eq_ok.mp loaded
      obtain ⟨typeName, fails, least⟩ := (sound.resolve_eq_error reads).mp failed
      exact .type reads.searched reads.readable fails least
  · intro fails
    cases fails with
    | search failed => exact .inl (.inl ⟨_, failed, rfl⟩)
    | file searched deciding first failed =>
      have failed := Outcome.mapM_eq_error.mpr ⟨_, _, _, deciding, first, failed⟩
      exact .inl (.inr ⟨_, searched, _, failed, rfl⟩)
    | @type found typeName e searched readable fails least =>
      obtain ⟨read, loaded⟩ := Outcome.mapM_ok_iff.mpr readable
      have reads : s.Reads files found read := ⟨searched, loaded⟩
      have failed := (sound.resolve_eq_error reads).mpr ⟨typeName, fails, least⟩
      exact .inr ⟨_, sound.loadModels_eq_ok.mpr ⟨found, read, reads, rfl⟩, failed⟩

theorem FailsWith.blocked {s : Setup α} {files : FileSystem} {e : Error}
    (fails : s.FailsWith files e) : s.Blocked files := by
  cases fails with
  | search failed => exact .search failed
  | @file found before after file e searched deciding _ failed =>
    have member : file ∈ ModelFile.firsts s.lacks found := by simp [deciding]
    obtain ⟨lacking, first⟩ := ModelFile.mem_firsts.mp member
    exact .file searched lacking first failed
  | type searched _ fails _ =>
    cases fails with
    | unknown lacking missing => exact .unknown searched lacking missing
    | refused known asks refuses _ => exact .refused searched asks known refuses

theorem Consistent.not_blocked {s s' : Setup α} (sound : s.Consistent)
    (isOpen : s.isClosed = false) {files : FileSystem} {g : Geometry α}
    (closing : s.close files = (s', .ok g)) : ¬ s.Blocked files := by
  obtain ⟨assembled, _⟩ := (close_eq_ok isOpen).mp closing
  obtain ⟨c, r, _, loaded, resolved, _, _⟩ := assemble_eq_ok.mp assembled
  obtain ⟨found, read, reads, rfl⟩ := sound.loadModels_eq_ok.mp loaded
  have searched := reads.searched
  have fine := sound.not_typeFails reads resolved
  intro blocked
  cases blocked with
  | search failed => cases searched.symm.trans failed
  | @file found' typeName file e searched' lacking first failed =>
    obtain rfl := Except.ok.inj (searched.symm.trans searched')
    obtain rfl : file.name = typeName := by simpa using List.find?_some first
    have member := ModelFile.mem_firsts.mpr ⟨lacking, first⟩
    obtain ⟨m, loaded'⟩ := reads.readable file member
    cases loaded'.symm.trans failed
  | unknown searched' lacking missing =>
    obtain rfl := Except.ok.inj (searched.symm.trans searched')
    exact fine _ _ (.unknown lacking missing)
  | refused searched' asks known refuses =>
    obtain rfl := Except.ok.inj (searched.symm.trans searched')
    obtain ⟨cause, fails⟩ := exists_typeFails known asks refuses
    exact fine _ cause fails

/-- Closing fails exactly if something blocks the setup, and then with the first error in the order
search, files, types and detectors of a type. It never finds a model twice, and no detector is left
without a model once the drafts have been served. -/
theorem close_fails_iff [Trigonometry α] {s : Setup α} (reachable : s.Reachable)
    (isOpen : s.isClosed = false) (files : FileSystem) :
    ((∃ e, (s.close files).2 = .error e) ↔ s.Blocked files) ∧
    (∀ e, (s.close files).2 = .error e ↔ s.FailsWith files e) ∧
    (∀ typeName, (s.close files).2 ≠ .error (.geometry (.modelExists typeName))) ∧
    (∀ c r, s.loadModels files = .ok c → s.resolve c = .ok r →
      ∀ number draft, s.drafts[number]? = some draft →
        ∃ detector, finishDraft r draft number = .ok detector) := by
  have sound := reachable.consistent
  have failure : ∀ e, (s.close files).2 = .error e ↔ s.FailsWith files e :=
    fun _ => sound.close_eq_error_iff isOpen
  refine ⟨⟨?_, ?_⟩, failure, ?_, ?_⟩
  · rintro ⟨e, failed⟩
    exact ((failure e).mp failed).blocked
  · intro blocked
    rcases (s.atomic_close files).cases with ⟨e, failed⟩ | ⟨s', g, closing⟩
    · exact ⟨e, congrArg Prod.snd failed⟩
    · exact absurd blocked (sound.not_blocked isOpen closing)
  · intro typeName failed
    have fails := (failure _).mp failed
    cases fails with
    | type _ _ fails _ => cases fails
  · intro c r _ resolved number draft known
    exact sound.finishDraft_ok resolved known

end Setup

namespace Sample

def stray : Section := detector "stray" [("type", "zeta")]

def thin : Section := detector "thin" [("type", "basic"), ("sensor_thickness", "thin")]

def tiny : Section := detector "tiny" [("type", "basic"), ("pixel_size", "tiny")]

def faultyCalls : List (Call Float) :=
  [.addModelPath ⟨"/first/basic.conf"⟩,
   .load ⟨files "", ⟨"/none"⟩, none⟩ ⟨fun _ _ => 0⟩ [stray, thin, tiny] (.new "" none) ⟨0⟩]

def faulty : Setup Float := Setup.empty.after faultyCalls

theorem faulty_fails :
    let e : Error := .settings (.invalidType "header" "sensor_thickness" "thin" (.notNumber ""))
    (faulty.close (files "")).2 = .error e ∧ faulty.FailsWith (files "") e ∧
      faulty.Blocked (files "") := by
  intro e
  have failed : (faulty.close (files "")).2 = .error e :=
    Outcome.fault?_eq_some.mp (by decide +kernel)
  have reachable : faulty.Reachable := ⟨faultyCalls, rfl⟩
  have isOpen : faulty.isClosed = false := by decide +kernel
  obtain ⟨fails, first, _⟩ := Setup.close_fails_iff reachable isOpen (files "")
  exact ⟨failed, (first e).mp failed, fails.mp ⟨e, failed⟩⟩

end Sample

end DetectorGeometry
