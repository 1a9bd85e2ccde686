import DetectorGeometry.Proofs.Setup.Sharing

namespace DetectorGeometry

variable {α : Type}

namespace Setup

/-- The collections of a setup agree on its detectors. -/
structure Books (s : Setup α) : Prop where
  order_once : s.order.Nodup
  order_all : ∀ number, number ∈ s.order ↔ ∃ draft, s.drafts[number]? = some draft
  names_exact : ∀ name, s.names.contains name = true ↔ ∃ draft ∈ s.drafts, draft.name = name
  names_size : s.names.size = s.drafts.length
  names_free : s.names.contains reservedName = false
  requests_once : (s.allRequests.map (·.2.draft)).Nodup
  requests_all : ∀ number,
    number ∈ s.allRequests.map (·.2.draft) ↔ ∃ draft, s.drafts[number]? = some draft
  requests_fit : ∀ typeName request, (typeName, request) ∈ s.allRequests →
    ∃ draft, s.drafts[request.draft]? = some draft ∧ draft.modelType = typeName ∧
      request.settings.name = draft.name ∧ request.settings.get .string "type" = .ok typeName
  requests_nonempty : ∀ entry ∈ s.requests.entries, entry.2 ≠ []
  needed : ∀ typeName, s.needsModel typeName = true ↔ ∃ draft ∈ s.drafts, draft.modelType = typeName

namespace Consistent

variable {s : Setup α}

theorem mem_order (sound : s.Consistent) (number : Nat) :
    number ∈ s.order ↔ ∃ draft, s.drafts[number]? = some draft := by
  rw [sound.counted, List.mem_range]
  exact ⟨fun inside => ⟨_, List.getElem?_eq_getElem inside⟩,
    fun ⟨_, found⟩ => (List.getElem?_eq_some_iff.mp found).1⟩

theorem size_names (sound : s.Consistent) : s.names.size = s.drafts.length := by
  have sameNames : (s.names.entries.map (·.1)).Perm (s.drafts.map (·.name)) := by
    rw [List.perm_ext_iff_of_nodup s.names.nodup_keys sound.names]
    intro name
    rw [Table.mem_keys_iff, ← sound.known]
    rfl
  have sameLength := sameNames.length_eq
  rw [List.length_map, List.length_map] at sameLength
  exact sameLength

theorem nodup_allRequests (sound : s.Consistent) : (s.allRequests.map (·.2.draft)).Nodup := by
  have perType : s.allRequests.map (·.2.draft) =
      s.requests.entries.flatMap fun entry => entry.2.map (·.draft) := by
    simp [allRequests, List.map_flatMap, Function.comp_def]
  rw [perType, List.nodup_flatMap]
  constructor
  · rintro ⟨typeName, requests⟩ member
    have ascending := sound.ordered ((Table.mem_entries_iff _ _ _).mp member)
    exact List.pairwise_map.mpr (ascending.imp Nat.ne_of_lt)
  · refine List.Pairwise.imp_of_mem ?_ s.requests.ascending
    rintro ⟨typeName, requests⟩ ⟨other, others⟩ member member' less number inFirst inSecond
    obtain ⟨⟨settings, _⟩, inList, rfl⟩ := List.mem_map.mp inFirst
    obtain ⟨⟨settings', _⟩, inList', same⟩ := List.mem_map.mp inSecond
    cases same
    have asks : s.Asks _ typeName settings := ⟨_, (Table.mem_entries_iff _ _ _).mp member, inList⟩
    have asks' : s.Asks _ other settings' :=
      ⟨_, (Table.mem_entries_iff _ _ _).mp member', inList'⟩
    obtain ⟨rfl, _⟩ := sound.unique asks asks'
    exact String.lt_irrefl _ less

theorem mem_requestNumbers (sound : s.Consistent) (number : Nat) :
    number ∈ s.allRequests.map (·.2.draft) ↔ ∃ draft, s.drafts[number]? = some draft := by
  constructor
  · intro member
    obtain ⟨⟨typeName, settings, _⟩, inList, rfl⟩ := List.mem_map.mp member
    obtain ⟨draft, found, _⟩ := sound.asked (mem_allRequests.mp inList)
    exact ⟨draft, found⟩
  · rintro ⟨draft, found⟩
    obtain ⟨settings, asks⟩ := sound.asking found
    exact List.mem_map.mpr ⟨_, mem_allRequests.mpr asks, rfl⟩

theorem books (sound : s.Consistent) : s.Books where
  order_once := by
    rw [sound.counted]
    exact List.nodup_range
  order_all := sound.mem_order
  names_exact name := by
    rw [← List.mem_map, ← sound.known]
    rfl
  names_size := sound.size_names
  names_free := by
    refine sound.hasDetector_eq_false.mpr fun taken => ?_
    obtain ⟨draft, member, reserved⟩ := List.mem_map.mp taken
    exact sound.unreserved draft member reserved
  requests_once := sound.nodup_allRequests
  requests_all := sound.mem_requestNumbers
  requests_fit := by
    rintro typeName ⟨settings, number⟩ member
    obtain ⟨draft, found, name, type, reads⟩ := sound.asked (mem_allRequests.mp member)
    exact ⟨draft, found, type, name.symm, reads⟩
  requests_nonempty := by
    rintro ⟨typeName, requests⟩ member rfl
    exact sound.nonempty ((Table.mem_entries_iff _ _ _).mp member)
  needed typeName := by
    rw [sound.needsModel_eq]
    simp

theorem numbers_numbered (sound : s.Consistent) : s.numbered.map (·.2) = s.order := by
  rw [sound.numbered_eq, sound.counted, List.zipIdx_map_snd, List.range_eq_range']

end Consistent

/-- In every setup that can be reached the collections agree on the detectors, so that every number
of the order finds its draft when the setup is closed. -/
theorem books_of_reachable [Scalar α] [Trigonometry α] {s : Setup α} (reachable : s.Reachable) :
    s.Books ∧ (∀ number ∈ s.order, ∃ draft, s.drafts[number]? = some draft) ∧
      s.numbered.map (·.2) = s.order := by
  have sound := reachable.consistent
  exact ⟨sound.books, fun number => (sound.mem_order number).mp, sound.numbers_numbered⟩

end Setup

namespace Sample

def interruptedCalls : List (Call Float) :=
  [.load ⟨files "", ⟨"/none"⟩, none⟩ ⟨fun _ _ => 0⟩ [plain, thick, plain, twin] (.new "" none) ⟨0⟩,
   .addDetector "global" .zero ⟨.zero, .zero, .zero⟩ "basic",
   .addDetector "tail" .zero ⟨.zero, .zero, .zero⟩ "other"]

def interrupted : Setup Float := Setup.empty.after interruptedCalls

theorem interrupted_books :
    interrupted.drafts.map (·.name) = ["plain", "thick", "tail"] ∧ interrupted.names.size = 3 ∧
      interrupted.needsModel "other" = true ∧ interrupted.numbered.map (·.2) = [0, 1, 2] := by
  have reachable : interrupted.Reachable := ⟨interruptedCalls, rfl⟩
  obtain ⟨books, _, numbers⟩ := Setup.books_of_reachable reachable
  have drafts : interrupted.drafts.map (fun draft => (draft.name, draft.modelType)) =
      [("plain", "basic"), ("thick", "basic"), ("tail", "other")] := by decide +kernel
  have names := congrArg (List.map Prod.fst) drafts
  have types := congrArg (List.map Prod.snd) drafts
  simp only [List.map_map] at names types
  refine ⟨names, ?_, ?_, ?_⟩
  · rw [books.names_size, ← List.length_map (fun draft => (draft.name, draft.modelType)), drafts]
    rfl
  · refine (books.needed "other").mpr (List.mem_map.mp ?_)
    exact types ▸ by decide
  · rw [numbers]
    decide +kernel

end Sample

end DetectorGeometry
