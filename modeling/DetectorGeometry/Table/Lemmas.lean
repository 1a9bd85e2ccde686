import DetectorGeometry.Table.Basic

namespace DetectorGeometry.Table

variable {β : Type}

theorem ext_entries {s t : Table β} (h : s.entries = t.entries) : s = t := by
  cases s
  cases t
  simpa using h

@[simp] theorem get?_empty (key : String) : (empty : Table β).get? key = none := rfl

theorem find?_cons_map (key k : String) (v : β) (rest : List (String × β)) :
    (((k, v) :: rest).find? (·.1 == key)).map (·.2) =
      if k = key then some v else (rest.find? (·.1 == key)).map (·.2) := by
  by_cases same : k = key <;> simp [same]

theorem find?_eq_none_of_lt {key : String} {l : List (String × β)}
    (above : ∀ entry ∈ l, key < entry.1) : (l.find? (·.1 == key)).map (·.2) = none := by
  have absent : l.find? (·.1 == key) = none := by
    refine List.find?_eq_none.mpr fun entry member same => ?_
    have equal : entry.1 = key := by simpa using same
    exact String.lt_irrefl key (equal ▸ above entry member)
  rw [absent]
  rfl

theorem find?_place (key other : String) (f : Option β → β) {l : List (String × β)}
    (ascending : l.Pairwise fun a b => a.1 < b.1) :
    ((place key f l).find? (·.1 == other)).map (·.2) =
      if key = other then some (f ((l.find? (·.1 == key)).map (·.2)))
      else (l.find? (·.1 == other)).map (·.2) := by
  induction l with
  | nil => by_cases same : key = other <;> simp [place, same]
  | cons head rest ih =>
    obtain ⟨k, v⟩ := head
    have above := List.pairwise_cons.mp ascending
    simp only [place]
    split
    case isTrue less =>
      have absent : (((k, v) :: rest).find? (·.1 == key)).map (·.2) = none := by
        refine find?_eq_none_of_lt fun entry member => ?_
        rcases List.mem_cons.mp member with rfl | member
        · exact less
        · exact String.lt_trans less (above.1 entry member)
      rw [find?_cons_map, absent]
    case isFalse notLess =>
      split
      case isTrue same =>
        subst same
        simp only [find?_cons_map]
        split <;> simp
      case isFalse different =>
        simp only [find?_cons_map, ih above.2]
        by_cases here : k = other
        · subst here
          simp [different]
        · by_cases wanted : key = other
          · subst wanted
            simp [here]
          · simp [here, wanted]

theorem get?_revise (t : Table β) (key other : String) (f : Option β → β) :
    (t.revise key f).get? other = if key = other then some (f (t.get? key)) else t.get? other :=
  find?_place key other f t.ascending

theorem get?_insert (t : Table β) (key other : String) (value : β) :
    (t.insert key value).get? other = if key = other then some value else t.get? other := by
  simp [insert, get?_revise]

theorem get?_insertNew (t : Table β) (key other : String) (value : β) :
    (t.insertNew key value).get? other =
      if key = other then some ((t.get? key).getD value) else t.get? other := by
  simp [insertNew, get?_revise]

theorem get?_foldl_insertNew (entries : List (String × β)) (t : Table β) (key : String) :
    (entries.foldl (fun merged entry => merged.insertNew entry.1 entry.2) t).get? key =
      (t.get? key).or ((entries.find? (·.1 == key)).map (·.2)) := by
  induction entries generalizing t with
  | nil => simp
  | cons head rest ih =>
    obtain ⟨k, v⟩ := head
    rw [List.foldl_cons, ih, find?_cons_map, get?_insertNew]
    by_cases same : k = key
    · subst same
      cases t.get? k <;> simp
    · simp [same]

/-- The first of two united tables decides about the keys it defines. -/
theorem get?_union (s t : Table β) (key : String) :
    (s.union t).get? key = (s.get? key).or (t.get? key) :=
  get?_foldl_insertNew t.entries s key

theorem find?_filter_keys (p : String → Bool) (key : String) (l : List (String × β)) :
    ((l.filter (p ·.1)).find? (·.1 == key)).map (·.2) =
      if p key then (l.find? (·.1 == key)).map (·.2) else none := by
  induction l with
  | nil => simp
  | cons head rest ih =>
    obtain ⟨k, v⟩ := head
    rw [List.filter_cons, find?_cons_map]
    split
    case isTrue kept =>
      rw [find?_cons_map, ih]
      by_cases same : k = key
      · subst same
        simp [kept]
      · simp [same]
    case isFalse dropped =>
      rw [ih]
      by_cases same : k = key
      · subst same
        simp [dropped]
      · simp [same]

theorem get?_filterKeys (t : Table β) (p : String → Bool) (key : String) :
    (t.filterKeys p).get? key = if p key then t.get? key else none :=
  find?_filter_keys p key t.entries

theorem contains_eq (t : Table β) (key : String) : t.contains key = (t.get? key).isSome := rfl

theorem mem_entries_iff (t : Table β) (key : String) (value : β) :
    (key, value) ∈ t.entries ↔ t.get? key = some value := by
  obtain ⟨l, ascending⟩ := t
  simp only [get?]
  induction l with
  | nil => simp
  | cons head rest ih =>
    obtain ⟨k, v⟩ := head
    have above := List.pairwise_cons.mp ascending
    rw [find?_cons_map, List.mem_cons, ih above.2]
    by_cases same : k = key
    · subst same
      have absent := find?_eq_none_of_lt above.1
      simp [absent, eq_comm]
    · simp [same, Ne.symm same]

theorem nodup_keys (t : Table β) : (t.entries.map (·.1)).Nodup :=
  List.pairwise_map.mpr (t.ascending.imp String.ne_of_lt)

theorem mem_keys_iff (t : Table β) (key : String) :
    key ∈ t.entries.map (·.1) ↔ t.contains key = true := by
  rw [contains_eq, Option.isSome_iff_exists, List.mem_map]
  constructor
  · rintro ⟨⟨_, value⟩, member, rfl⟩
    exact ⟨value, (mem_entries_iff t _ value).mp member⟩
  · rintro ⟨value, found⟩
    exact ⟨(key, value), (mem_entries_iff t key value).mpr found, rfl⟩

theorem eq_of_ascending {l m : List (String × β)} (hl : l.Pairwise fun a b => a.1 < b.1)
    (hm : m.Pairwise fun a b => a.1 < b.1) (same : ∀ entry, entry ∈ l ↔ entry ∈ m) : l = m := by
  induction l generalizing m with
  | nil =>
    cases m with
    | nil => rfl
    | cons head rest => simpa using (same head).mpr List.mem_cons_self
  | cons first others ih =>
    cases m with
    | nil => simpa using (same first).mp List.mem_cons_self
    | cons head rest =>
      have belowOthers := List.pairwise_cons.mp hl
      have belowRest := List.pairwise_cons.mp hm
      have heads : first = head := by
        rcases List.mem_cons.mp ((same first).mp List.mem_cons_self) with equal | inRest
        · exact equal
        · rcases List.mem_cons.mp ((same head).mpr List.mem_cons_self) with equal | inOthers
          · exact equal.symm
          · exact absurd (belowRest.1 first inRest) (String.lt_asymm (belowOthers.1 head inOthers))
      subst heads
      have tails : others = rest := by
        refine ih belowOthers.2 belowRest.2 fun entry => ⟨fun member => ?_, fun member => ?_⟩
        · have found := (same entry).mp (List.mem_cons_of_mem _ member)
          rcases List.mem_cons.mp found with equal | inRest
          · exact absurd (equal ▸ belowOthers.1 entry member) (String.lt_irrefl _)
          · exact inRest
        · have found := (same entry).mpr (List.mem_cons_of_mem _ member)
          rcases List.mem_cons.mp found with equal | inOthers
          · exact absurd (equal ▸ belowRest.1 entry member) (String.lt_irrefl _)
          · exact inOthers
      rw [tails]

theorem ext_get? {s t : Table β} (same : ∀ key, s.get? key = t.get? key) : s = t := by
  refine ext_entries (eq_of_ascending s.ascending t.ascending fun (key, value) => ?_)
  rw [mem_entries_iff, mem_entries_iff, same]

theorem isEmpty_iff {t : Table β} : t.isEmpty = true ↔ ∀ key, t.get? key = none := by
  constructor
  · intro isEmpty key
    have noEntries : t.entries = [] := List.isEmpty_iff.mp isEmpty
    simp [get?, noEntries]
  · intro absent
    have same : t = empty := ext_get? absent
    rw [same]
    rfl

end DetectorGeometry.Table
