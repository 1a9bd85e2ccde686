import DetectorGeometry.Proofs.Setup.Run
import DetectorGeometry.Table.Lemmas
import Mathlib.Data.List.Induction
import Mathlib.Data.List.Nodup

namespace DetectorGeometry.Setup

variable {α : Type}

/-- The detector with the number `number` has been registered from the section `settings`, which
asks for a model of the type. -/
def Asks (s : Setup α) (number : Nat) (typeName : String) (settings : Section) : Prop :=
  ∃ requests, s.requests.get? typeName = some requests ∧ ⟨settings, number⟩ ∈ requests

/-- Drafts and requests belong together. -/
structure Consistent (s : Setup α) : Prop where
  names : (s.drafts.map (·.name)).Nodup
  unreserved : ∀ draft ∈ s.drafts, draft.name ≠ reservedName
  asked : ∀ {number typeName settings}, s.Asks number typeName settings →
    ∃ draft, s.drafts[number]? = some draft ∧ draft.name = settings.name ∧
      draft.modelType = typeName ∧ settings.get .string "type" = .ok typeName
  asking : ∀ {number draft}, s.drafts[number]? = some draft →
    ∃ settings, s.Asks number draft.modelType settings
  ordered : ∀ {typeName requests}, s.requests.get? typeName = some requests →
    requests.Pairwise (·.draft < ·.draft)
  nonempty : ∀ {typeName}, s.requests.get? typeName ≠ some []
  counted : s.order = List.range s.drafts.length
  known : ∀ {name}, s.hasDetector name = true ↔ name ∈ s.drafts.map (·.name)

theorem Consistent.hasDetector_eq_false {s : Setup α} (sound : s.Consistent) {name : String} :
    s.hasDetector name = false ↔ name ∉ s.drafts.map (·.name) := by
  rw [← sound.known, Bool.not_eq_true]

theorem filterMap_range_getElem? {β : Type} (l : List β) :
    ((List.range l.length).filterMap fun i => l[i]?.map (·, i)) = l.zipIdx := by
  induction l using List.reverseRecOn with
  | nil => rfl
  | append_singleton front last ih =>
    have inFront : ∀ i ∈ List.range front.length,
        (front ++ [last])[i]?.map (·, i) = front[i]?.map (·, i) := by
      intro i inRange
      rw [List.getElem?_append_left (List.mem_range.mp inRange)]
    rw [List.length_append, List.length_singleton, List.range_succ, List.filterMap_append,
      List.filterMap_congr inFront, ih, List.zipIdx_append]
    simp

theorem Consistent.numbered_eq {s : Setup α} (sound : s.Consistent) :
    s.numbered = s.drafts.zipIdx := by
  rw [numbered, sound.counted]
  exact filterMap_range_getElem? s.drafts

theorem hasDetector_enlist {s : Setup α} {typeName other : String} {settings : Section}
    {position : Vec3 α} {orientation : Matrix3 α} :
    (s.enlist typeName settings position orientation).hasDetector other = true ↔
      settings.name = other ∨ s.hasDetector other = true := by
  simp only [hasDetector, enlist, Table.contains_eq, Table.get?_insert]
  by_cases same : settings.name = other <;> simp [same]

theorem get?_enlist (s : Setup α) (typeName other : String) (settings : Section)
    (position : Vec3 α) (orientation : Matrix3 α) :
    (s.enlist typeName settings position orientation).requests.get? other =
      if typeName = other then
        some ((s.requests.get? typeName).getD [] ++ [⟨settings, s.drafts.length⟩])
      else s.requests.get? other :=
  Table.get?_revise ..

theorem getElem?_enlist {s : Setup α} {typeName : String} {settings : Section}
    {position : Vec3 α} {orientation : Matrix3 α} {number : Nat} {draft : Draft α} :
    (s.enlist typeName settings position orientation).drafts[number]? = some draft ↔
      s.drafts[number]? = some draft ∨
        number = s.drafts.length ∧ draft = ⟨settings.name, typeName, position, orientation⟩ := by
  simp only [enlist, List.getElem?_append]
  split
  case isTrue inside =>
    have other : number ≠ s.drafts.length := by omega
    simp [other]
  case isFalse outside =>
    have beyond : s.drafts[number]? = none := List.getElem?_eq_none (by omega)
    rw [beyond]
    by_cases next : number = s.drafts.length
    · subst next
      simp [eq_comm]
    · have positive : number - s.drafts.length ≠ 0 := by omega
      simp [positive, next]

theorem asks_enlist {s : Setup α} {typeName other : String} {settings others : Section}
    {position : Vec3 α} {orientation : Matrix3 α} {number : Nat} :
    (s.enlist typeName settings position orientation).Asks number other others ↔
      s.Asks number other others ∨
        number = s.drafts.length ∧ other = typeName ∧ others = settings := by
  simp only [Asks, get?_enlist]
  by_cases same : typeName = other
  · subst same
    cases found : s.requests.get? typeName with
    | none => simp [and_comm]
    | some earlier => simp [and_comm]
  · simp [same, Ne.symm same]

theorem Consistent.number_lt {s : Setup α} (sound : s.Consistent) {number : Nat}
    {typeName : String} {settings : Section} (asks : s.Asks number typeName settings) :
    number < s.drafts.length := by
  obtain ⟨draft, known, _⟩ := sound.asked asks
  exact (List.getElem?_eq_some_iff.mp known).1

theorem Consistent.unique {s : Setup α} (sound : s.Consistent) {number : Nat}
    {typeName other : String} {settings others : Section} (asks : s.Asks number typeName settings)
    (asks' : s.Asks number other others) : typeName = other ∧ settings = others := by
  obtain ⟨draft, known, _, type, _⟩ := sound.asked asks
  obtain ⟨draft', known', _, type', _⟩ := sound.asked asks'
  have sameDraft : draft = draft' := Option.some.inj (known.symm.trans known')
  have sameType : typeName = other := by rw [← type, ← type', sameDraft]
  subst sameType
  obtain ⟨requests, found, member⟩ := asks
  obtain ⟨requests', found', member'⟩ := asks'
  have sameList : requests = requests' := Option.some.inj (found.symm.trans found')
  subst sameList
  have numbers : (requests.map (·.draft)).Nodup :=
    List.pairwise_map.mpr ((sound.ordered found).imp Nat.ne_of_lt)
  have sameRequest := List.inj_on_of_nodup_map numbers member member' rfl
  exact ⟨rfl, congrArg Request.settings sameRequest⟩

theorem Consistent.needsModel_eq {s : Setup α} (sound : s.Consistent) (typeName : String) :
    s.needsModel typeName = s.drafts.any (·.modelType == typeName) := by
  rw [Bool.eq_iff_iff]
  simp only [needsModel, Table.contains_eq, Option.isSome_iff_exists, List.any_eq_true, beq_iff_eq]
  constructor
  · rintro ⟨requests, found⟩
    cases requests with
    | nil => exact absurd found sound.nonempty
    | cons request rest =>
      have asks : s.Asks request.draft typeName request.settings :=
        ⟨request :: rest, found, List.mem_cons_self⟩
      obtain ⟨draft, known, _, type, _⟩ := sound.asked asks
      exact ⟨draft, List.mem_of_getElem? known, type⟩
  · rintro ⟨draft, member, rfl⟩
    obtain ⟨number, known⟩ := List.mem_iff_getElem?.mp member
    obtain ⟨settings, requests, found, _⟩ := sound.asking known
    exact ⟨requests, found⟩

theorem consistent_empty : (empty : Setup α).Consistent where
  names := List.nodup_nil
  unreserved := by simp [empty]
  asked := by
    rintro _ _ _ ⟨_, found, _⟩
    cases found
  asking := by
    intro _ _ known
    cases known
  ordered := by
    intro _ _ found
    cases found
  nonempty := by
    intro _ found
    cases found
  counted := rfl
  known := by
    intro name
    exact iff_of_false Bool.false_ne_true List.not_mem_nil

theorem Consistent.register {s s' : Setup α} (sound : s.Consistent) {settings : Section}
    {position : Vec3 α} {orientation : Matrix3 α}
    (registered : s.register settings position orientation = (s', .ok ())) : s'.Consistent := by
  obtain ⟨free, new, typeName, named, rfl⟩ := register_eq_ok.mp registered
  rw [sound.hasDetector_eq_false] at new
  constructor
  · simp only [enlist, List.map_append, List.map_cons, List.map_nil]
    refine List.nodup_append.mpr ⟨sound.names, List.nodup_singleton _, ?_⟩
    intro a known b last equal
    rw [List.mem_singleton] at last
    exact new (last ▸ equal ▸ known)
  · intro draft member
    rcases List.mem_append.mp member with known | last
    · exact sound.unreserved draft known
    · rw [List.mem_singleton] at last
      rw [last]
      exact free
  · intro number other others asks
    rcases asks_enlist.mp asks with earlier | ⟨rfl, rfl, rfl⟩
    · obtain ⟨draft, known, facts⟩ := sound.asked earlier
      exact ⟨draft, getElem?_enlist.mpr (.inl known), facts⟩
    · exact ⟨_, getElem?_enlist.mpr (.inr ⟨rfl, rfl⟩), rfl, rfl, named⟩
  · intro number draft known
    rcases getElem?_enlist.mp known with earlier | ⟨rfl, rfl⟩
    · obtain ⟨others, asks⟩ := sound.asking earlier
      exact ⟨others, asks_enlist.mpr (.inl asks)⟩
    · exact ⟨settings, asks_enlist.mpr (.inr ⟨rfl, rfl, rfl⟩)⟩
  · intro other requests found
    rw [get?_enlist] at found
    split at found
    case isTrue same =>
      subst same
      cases found
      refine List.pairwise_append.mpr ⟨?_, List.pairwise_singleton _ _, ?_⟩
      · cases earlier : s.requests.get? typeName with
        | none => exact .nil
        | some requests => exact sound.ordered earlier
      · intro request member last isLast
        rw [List.mem_singleton] at isLast
        rw [isLast]
        cases earlier : s.requests.get? typeName with
        | none =>
          rw [earlier] at member
          cases member
        | some requests =>
          rw [earlier] at member
          have asks : s.Asks request.draft typeName request.settings :=
            ⟨requests, earlier, member⟩
          exact sound.number_lt asks
    case isFalse => exact sound.ordered found
  · intro other found
    rw [get?_enlist] at found
    split at found
    case isTrue => simp at found
    case isFalse => exact sound.nonempty found
  · simp [enlist, sound.counted, List.range_succ]
  · intro other
    rw [hasDetector_enlist, sound.known]
    simp [enlist, or_comm, eq_comm]

variable [Scalar α]

theorem Consistent.change {s s' : Setup α} (sound : s.Consistent) (change : Change s s') :
    s'.Consistent := by
  cases change with
  | detector _ registered => exact sound.register registered
  | model _ _ | point _ _ | paths _ _ | closing _ _ =>
    exact ⟨sound.names, sound.unreserved, sound.asked, sound.asking, sound.ordered, sound.nonempty,
      sound.counted, sound.known⟩

theorem Reachable.consistent [Trigonometry α] {s : Setup α} (reachable : s.Reachable) :
    s.Consistent :=
  reachable.induct consistent_empty fun _ _ sound change => sound.change change

end DetectorGeometry.Setup
