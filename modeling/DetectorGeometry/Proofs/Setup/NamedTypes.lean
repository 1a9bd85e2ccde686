import DetectorGeometry.Proofs.Settings.Quoting
import DetectorGeometry.Proofs.Setup.Growth
import DetectorGeometry.Proofs.Setup.Registrations

namespace DetectorGeometry

variable {α : Type}

namespace Reading

/-- A text without the blanks and the pair of quotes around it. -/
def bare (text : String) : String := String.ofList (unquote (Text.trim text.toList))

structure Verbatim (text : String) : Prop where
  trimmed : Text.Trimmed text.toList
  unquoted : ∀ inner, text.toList ≠ '"' :: (inner ++ ['"'])

theorem unquote_cases (cs : List Char) :
    unquote cs = cs ∨ cs = '"' :: (unquote cs ++ ['"']) := by
  unfold unquote
  split
  case h_1 rest =>
    split
    case isTrue closed =>
      obtain ⟨inner, rfl⟩ := List.getLast?_eq_some_iff.mp closed
      right
      rw [List.dropLast_concat]
    case isFalse => exact .inl rfl
  case h_2 => exact .inl rfl

theorem unquote_quoted (inner : List Char) : unquote ('"' :: (inner ++ ['"'])) = inner := by
  simp [unquote]

theorem bare_eq_iff {text : String} : bare text = text ↔ Verbatim text := by
  rw [bare, ← String.toList_inj, String.toList_ofList]
  constructor
  · intro same
    have unquoted : unquote (Text.trim text.toList) = Text.trim text.toList := by
      rcases unquote_cases (Text.trim text.toList) with kept | quoted
      · exact kept
      · obtain ⟨front, back, _, _, parts⟩ := Text.exists_trim text.toList
        rw [same] at quoted
        have lengths := congrArg List.length parts
        simp only [quoted, List.length_append, List.length_cons, List.length_nil] at lengths
        omega
    have trimmed : Text.trim text.toList = text.toList := unquoted.symm.trans same
    refine ⟨Text.trimmed_iff.mpr trimmed, fun inner quoted => ?_⟩
    rw [trimmed, quoted, unquote_quoted] at same
    have lengths := congrArg List.length same
    simp only [List.length_append, List.length_cons, List.length_nil] at lengths
    omega
  · rintro ⟨trimmed, unquoted⟩
    rw [trimmed.trim_eq]
    rcases unquote_cases text.toList with kept | quoted
    · exact kept
    · exact absurd quoted (unquoted _)

end Reading

def Section.ofType (name typeName : String) : Section := (Section.new name none).set "type" typeName

theorem Section.isEmpty_overrides_ofType (name typeName : String) :
    (ofType name typeName).overrides.isEmpty = true := by
  refine isEmpty_overrides.mpr fun key defined => ?_
  by_cases isType : "type" = key
  · subst isType
    exact List.mem_cons_self
  · rw [has, Table.contains_eq, ofType, get?_set, if_neg isType] at defined
    cases defined

namespace Setup

theorem needsModel_enlist {s : Setup α} {typeName other : String} {settings : Section}
    {position : Vec3 α} {orientation : Matrix3 α} :
    (s.enlist typeName settings position orientation).needsModel other = true ↔
      typeName = other ∨ s.needsModel other = true := by
  simp only [needsModel, Table.contains_eq, get?_enlist]
  by_cases same : typeName = other <;> simp [same]

theorem addDetector_enlists {s t : Setup α} {name : String} {position : Vec3 α}
    {orientation : Matrix3 α} {typeName : String}
    (added : s.addDetector name position orientation typeName = (t, .ok ())) :
    t = s.enlist (Reading.bare typeName) (.ofType name typeName) position orientation := by
  obtain ⟨_, registered⟩ := addDetector_eq_ok.mp added
  obtain ⟨_, _, read, named, rfl⟩ := register_eq_ok.mp registered
  have reads : (Section.ofType name typeName).get .string "type" = .ok (Reading.bare typeName) :=
    Section.get_set rfl
  cases reads.symm.trans named
  rfl

variable [Scalar α] [Trigonometry α]

/-- A detector that was registered without changes has, whenever the setup is closed, the generic
model of the type that it asks for. -/
theorem generic_of_asks {s : Setup α} (reachable : s.Reachable) {g : Geometry α}
    (closed : s.closed? = some g) {number : Nat} {draft : Draft α} {settings : Section}
    (known : s.drafts[number]? = some draft) (asks : s.Asks number draft.modelType settings)
    (unchanged : settings.overrides.isEmpty = true) :
    ∃ d, g.detectors[number]? = some d ∧ d.draft = draft ∧
      g.models.get? draft.modelType = some d.model := by
  have seals := reachable.seals closed
  rw [← seals.detectors, List.getElem?_map, Option.map_eq_some_iff] at known
  obtain ⟨d, inList, rfl⟩ := known
  obtain ⟨t, sound, isOpen, files, closing⟩ := reachable.exists_close closed
  obtain ⟨r, _, answers⟩ := sound.detector_of_close isOpen closing
  obtain ⟨_, rfl⟩ := (close_eq_ok isOpen).mp closing
  obtain ⟨_, _, generic, found, answer⟩ := answers inList asks
  rw [if_pos unchanged] at answer
  exact ⟨d, inList, rfl, answer ▸ found⟩

theorem model_of_added {calls front back : List (Call α)} {m : Model α} {next s : Setup α}
    {files : FileSystem} {g : Geometry α} (run : calls = front ++ .addModel m :: back)
    (added : (empty.after front).addModel m = (next, .ok ()))
    (closing : (empty.after calls).close files = (s, .ok g)) :
    g.models.get? m.typeName = some ⟨(empty.after front).models.size, m⟩ := by
  obtain ⟨_, models, inserted, rfl⟩ := addModel_eq_ok.mp added
  have later : empty.after calls = ({ empty.after front with models } : Setup α).after back := by
    rw [run, after_append_cons, Call.perform, added]
    rfl
  have grows := (grows_after { empty.after front with models } back).trans
    (later ▸ grows_close closing)
  have seals := (Reachable.close ⟨calls, rfl⟩ closing).seals (closed?_of_close closing)
  rw [seals.models]
  exact Catalogue.get?_of_prefix grows.models (Catalogue.get?_of_insert inserted)

/-- Adding a detector makes its type needed, and in every geometry that the run leads to it has the
model that was added with this type, exactly if reading leaves the type as it is. In any case the
model is the one of the type without blanks and quotes around it. -/
theorem named_type {calls before later : List (Call α)} {name typeName : String}
    {position : Vec3 α} {orientation : Matrix3 α} {next : Setup α}
    (run : calls = before ++ .addDetector name position orientation typeName :: later)
    (added : (empty.after before).addDetector name position orientation typeName = (next, .ok ())) :
    (next.needsModel typeName = true ↔
      Reading.Verbatim typeName ∨ (empty.after before).needsModel typeName = true) ∧
    ∀ files s g, (empty.after calls).close files = (s, .ok g) →
      ∃ d, g.detectors[(empty.after before).drafts.length]? = some d ∧
        d.place = (name, position, orientation) ∧
        g.model (Reading.bare typeName) = .ok d.model ∧
        (d.typeName = typeName ↔ Reading.Verbatim typeName) ∧
        ∀ front back m entered, calls = front ++ .addModel m :: back →
          (empty.after front).addModel m = (entered, .ok ()) → m.typeName = typeName →
          (d.model = ⟨(empty.after front).models.size, m⟩ ↔ Reading.Verbatim typeName) := by
  have enlisted := addDetector_enlists added
  constructor
  · rw [enlisted, needsModel_enlist, Reading.bare_eq_iff]
  · intro files s g closing
    have behind : empty.after calls = next.after later := by
      rw [run, after_append_cons, Call.perform, added]
      rfl
    have grows := (next.grows_after later).trans (behind ▸ grows_close closing)
    rw [enlisted] at grows
    have known := grows.draft (getElem?_enlist.mpr (.inr ⟨rfl, rfl⟩))
    have asks := grows.asks (asks_enlist.mpr (.inr ⟨rfl, rfl, rfl⟩))
    have reachable : s.Reachable := Reachable.close ⟨calls, rfl⟩ closing
    obtain ⟨d, inList, isDraft, generic⟩ := generic_of_asks reachable (closed?_of_close closing)
      known asks (Section.isEmpty_overrides_ofType name typeName)
    have typed : d.typeName = Reading.bare typeName := Catalogue.typeName_of_get? generic
    have sameType : d.typeName = typeName ↔ Reading.Verbatim typeName := by
      rw [typed, Reading.bare_eq_iff]
    refine ⟨d, inList, ?_, Geometry.model_eq_ok.mpr generic, sameType, ?_⟩
    · exact congrArg (fun draft : Draft α => (draft.name, draft.position, draft.orientation)) isDraft
    · rintro front back m entered run' added' rfl
      have found := model_of_added run' added' closing
      rw [← sameType]
      constructor
      · intro isModel
        rw [Detector.typeName, isModel]
      · intro verbatim
        rw [← typed, verbatim, found] at generic
        exact (Option.some.inj generic).symm

end Setup

namespace Sample

def late : List (Call Float) :=
  [.addModel (pad "other"), .addDetector "dut" .zero ⟨.zero, .zero, .zero⟩ "basic",
   .addModel (pad "basic")]

theorem late_model_given :
    ∃ s g d, (Setup.empty.after late).close (files "") = (s, .ok g) ∧
      g.detectors[0]? = some d ∧ d.model = ⟨1, pad "basic"⟩ ∧
      (Setup.empty.after (late.take 2)).needsModel "basic" = true := by
  have isOk : ((Setup.empty.after late).close (files "")).2.isOk = true := by
    decide +kernel
  obtain ⟨s, g, closing⟩ := Outcome.exists_of_isOk_snd isOk
  have verbatim : Reading.Verbatim "basic" := Reading.bare_eq_iff.mp (by decide +kernel)
  have run : late = late.take 1 ++
      .addDetector "dut" .zero ⟨.zero, .zero, .zero⟩ "basic" :: [.addModel (pad "basic")] := rfl
  obtain ⟨needs, answers⟩ := Setup.named_type run rfl
  obtain ⟨d, inList, _, _, _, given⟩ := answers _ s g closing
  have isModel := (given (late.take 2) [] (pad "basic") _ rfl rfl rfl).mpr verbatim
  exact ⟨s, g, d, closing, inList, isModel, needs.mpr (.inl verbatim)⟩

def quoted : List (Call Float) :=
  [.addModel (pad "\"basic\""), .addModel (pad "basic"),
   .addDetector "dut" .zero ⟨.zero, .zero, .zero⟩ "\"basic\""]

theorem quoted_type_missed :
    (Setup.empty.after quoted).hasDetector "dut" = true ∧
      (Setup.empty.after quoted).hasModel "\"basic\"" = true ∧
      (Setup.empty.after quoted).needsModel "\"basic\"" = false ∧
      ((Setup.empty.after quoted).close (files "")).2.toOption.map
        (fun closed => closed.detectors.map fun d => (d.name, d.model.serial, d.typeName)) =
        some [("dut", 1, "basic")] := by
  decide +kernel

end Sample

end DetectorGeometry
