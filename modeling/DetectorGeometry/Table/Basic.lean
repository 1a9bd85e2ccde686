/-!
Tables with text keys. A table is kept as the list of its entries in ascending order of the keys, so
that two tables with the same entries are equal, and reading it from front to back goes through the
keys in order.
-/
namespace DetectorGeometry

/-- One value per key, listed in ascending order of the keys. -/
structure Table (β : Type) where
  entries : List (String × β)
  ascending : entries.Pairwise fun a b => a.1 < b.1

namespace Table

variable {β : Type}

instance [DecidableEq β] : DecidableEq (Table β) := fun s t =>
  decidable_of_iff (s.entries = t.entries) (by cases s; cases t; simp)

def empty : Table β := ⟨[], .nil⟩

def get? (t : Table β) (key : String) : Option β :=
  (t.entries.find? (·.1 == key)).map (·.2)

def contains (t : Table β) (key : String) : Bool := (t.get? key).isSome

def size (t : Table β) : Nat := t.entries.length

def isEmpty (t : Table β) : Bool := t.entries.isEmpty

/-- Puts an entry into its place in an ascending list; `revise` turns the value found there into the
new one. -/
def place (key : String) (revise : Option β → β) : List (String × β) → List (String × β)
  | [] => [(key, revise none)]
  | (k, v) :: rest =>
    if key < k then (key, revise none) :: (k, v) :: rest
    else if key = k then (key, revise (some v)) :: rest
    else (k, v) :: place key revise rest

theorem mem_place {key : String} {revise : Option β → β} {entry : String × β}
    {l : List (String × β)} (h : entry ∈ place key revise l) : entry.1 = key ∨ entry ∈ l := by
  induction l with
  | nil => simp_all [place]
  | cons head rest ih =>
    obtain ⟨k, v⟩ := head
    simp only [place] at h
    split at h
    · simp only [List.mem_cons] at h ⊢
      rcases h with rfl | h
      · exact .inl rfl
      · exact .inr h
    · split at h
      · simp only [List.mem_cons] at h ⊢
        rcases h with rfl | h
        · exact .inl rfl
        · exact .inr (.inr h)
      · simp only [List.mem_cons] at h ⊢
        rcases h with rfl | h
        · exact .inr (.inl rfl)
        · rcases ih h with h | h
          · exact .inl h
          · exact .inr (.inr h)

theorem ascending_place (key : String) (revise : Option β → β) {l : List (String × β)}
    (h : l.Pairwise fun a b => a.1 < b.1) : (place key revise l).Pairwise fun a b => a.1 < b.1 := by
  induction l with
  | nil => simp [place]
  | cons head rest ih =>
    obtain ⟨k, v⟩ := head
    have above := List.pairwise_cons.mp h
    simp only [place]
    split
    case isTrue less =>
      refine List.pairwise_cons.mpr ⟨fun entry member => ?_, h⟩
      rcases List.mem_cons.mp member with rfl | member
      · exact less
      · exact String.lt_trans less (above.1 entry member)
    case isFalse notLess =>
      split
      case isTrue same =>
        subst same
        exact List.pairwise_cons.mpr ⟨above.1, above.2⟩
      case isFalse different =>
        refine List.pairwise_cons.mpr ⟨fun entry member => ?_, ih above.2⟩
        rcases mem_place member with same | member
        · rw [same]
          exact Decidable.byContradiction fun notAbove =>
            different (String.le_antisymm (String.not_lt.mp notAbove) (String.not_lt.mp notLess))
        · exact above.1 entry member

def revise (t : Table β) (key : String) (f : Option β → β) : Table β :=
  ⟨place key f t.entries, ascending_place key f t.ascending⟩

def insert (t : Table β) (key : String) (value : β) : Table β := t.revise key fun _ => value

def insertNew (t : Table β) (key : String) (value : β) : Table β := t.revise key (·.getD value)

/-- Adds the entries of `other` whose keys are not defined here. -/
def union (t other : Table β) : Table β :=
  other.entries.foldl (fun merged entry => merged.insertNew entry.1 entry.2) t

def filterKeys (t : Table β) (p : String → Bool) : Table β :=
  ⟨t.entries.filter (p ·.1), t.ascending.filter _⟩

end Table

end DetectorGeometry
