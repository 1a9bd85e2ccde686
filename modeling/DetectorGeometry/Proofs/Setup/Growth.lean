import DetectorGeometry.Proofs.Setup.Lifecycle

namespace DetectorGeometry

variable {α : Type}

namespace Catalogue

variable {c c' : Catalogue α}

theorem get?_of_prefix (grown : c.models <+: c'.models) {typeName : String}
    {found : Shared (Model α)} (known : c.get? typeName = some found) :
    c'.get? typeName = some found := by
  obtain ⟨others, all⟩ := grown
  obtain ⟨position, value⟩ := get?_eq_some.mp known
  refine get?_eq_some.mpr ⟨?_, ?_⟩
  · rw [position?] at position
    rw [position?, ← all, List.findIdx?_append, position]
    rfl
  · rw [← all, List.getElem?_append_left (List.getElem?_eq_some_iff.mp value).1, value]

theorem get?_of_insert {m : Model α} (inserted : c.insert m = .ok c') :
    c'.get? m.typeName = some ⟨c.size, m⟩ := by
  obtain ⟨unknown, rfl⟩ := insert_eq_ok.mp inserted
  have absent : c.models.findIdx? (·.typeName == m.typeName) = none := by
    simpa [contains, position?] using unknown
  refine get?_eq_some.mpr ⟨?_, List.getElem?_concat_length⟩
  rw [position?, List.findIdx?_append, absent]
  simp [size]

end Catalogue

namespace Setup

/-- What a setup has of detectors, requests and models is there later, under the same numbers. -/
structure Grows (s t : Setup α) : Prop where
  drafts : s.drafts <+: t.drafts
  models : s.models.models <+: t.models.models
  asks : ∀ {number typeName settings}, s.Asks number typeName settings →
    t.Asks number typeName settings

theorem Grows.refl (s : Setup α) : s.Grows s := ⟨List.prefix_rfl, List.prefix_rfl, id⟩

theorem Grows.trans {s t u : Setup α} (first : s.Grows t) (later : t.Grows u) : s.Grows u :=
  ⟨first.drafts.trans later.drafts, first.models.trans later.models,
    fun asks => later.asks (first.asks asks)⟩

theorem Grows.draft {s t : Setup α} (grows : s.Grows t) {number : Nat} {draft : Draft α}
    (known : s.drafts[number]? = some draft) : t.drafts[number]? = some draft := by
  obtain ⟨others, all⟩ := grows.drafts
  rw [← all, List.getElem?_append_left (List.getElem?_eq_some_iff.mp known).1, known]

variable [Scalar α]

theorem models_of_loadModels {s : Setup α} {files : FileSystem} {models : Catalogue α}
    (loaded : s.loadModels files = .ok models) : s.models.models <+: models.models := by
  obtain ⟨found, searched, added⟩ := Outcome.bind_eq_ok.mp loaded
  have searched := Outcome.ofSettings_eq_ok.mp searched
  rw [foldlM_addFile files s found fun _ => ModelFile.nameOfFile_of_search searched] at added
  obtain ⟨read, _, equal⟩ := Outcome.bind_eq_ok.mp added
  cases equal
  exact List.prefix_append _ _

theorem grows_change {s t : Setup α} (change : Change s t) : s.Grows t := by
  cases change with
  | detector _ registered =>
    obtain ⟨_, _, typeName, _, rfl⟩ := register_eq_ok.mp registered
    exact ⟨List.prefix_append _ _, List.prefix_rfl, fun asks => asks_enlist.mpr (.inl asks)⟩
  | model _ inserted =>
    obtain ⟨_, rfl⟩ := Catalogue.insert_eq_ok.mp inserted
    exact ⟨List.prefix_rfl, List.prefix_append _ _, id⟩
  | point _ _ | paths _ _ => exact ⟨List.prefix_rfl, List.prefix_rfl, id⟩
  | closing _ assembled =>
    obtain ⟨_, _, _, loaded, _, _, rfl⟩ := assemble_eq_ok.mp assembled
    exact ⟨List.prefix_rfl, models_of_loadModels loaded, id⟩

theorem grows_changes {s t : Setup α} (changes : Relation.ReflTransGen Change s t) :
    s.Grows t := by
  induction changes with
  | refl => exact .refl s
  | tail _ change ih => exact ih.trans (grows_change change)

variable [Trigonometry α]

theorem grows_after (s : Setup α) (calls : List (Call α)) : s.Grows (s.after calls) :=
  grows_changes (s.after_changes calls)

theorem after_append_cons (s : Setup α) (before : List (Call α)) (call : Call α)
    (later : List (Call α)) :
    s.after (before ++ call :: later) = (call.perform (s.after before)).1.after later :=
  s.after_append before (call :: later)

theorem grows_close {s t : Setup α} {files : FileSystem} {g : Geometry α}
    (closing : s.close files = (t, .ok g)) : s.Grows t := by
  have grows := s.grows_after [.close files]
  rwa [after, List.foldl_cons, List.foldl_nil, Call.perform_close closing] at grows

end Setup

end DetectorGeometry
