import Mathlib.Data.List.Forall2
import DetectorGeometry.Geometry.Error

namespace DetectorGeometry.Outcome

variable {ε β γ δ : Type}

def fault? : Except ε β → Option ε
  | .ok _ => none
  | .error e => some e

theorem fault?_eq_some {x : Except ε β} {e : ε} : fault? x = some e ↔ x = .error e := by
  cases x <;> simp [fault?]

theorem fault?_eq_none {x : Except ε β} : fault? x = none ↔ ∃ b, x = .ok b := by
  cases x <;> simp [fault?]

theorem isOk_iff {x : Except ε β} : x.isOk = true ↔ ∃ b, x = .ok b := by
  cases x <;> simp [Except.isOk, Except.toBool]

theorem exists_of_isOk_snd {step : γ × Except ε β} (isOk : step.2.isOk = true) :
    ∃ c b, step = (c, .ok b) := by
  obtain ⟨b, done⟩ := isOk_iff.mp isOk
  exact ⟨step.1, b, Prod.ext rfl done⟩

theorem exists_of_map_toOption {x : Except ε β} {f : β → γ} {c : γ}
    (shown : x.toOption.map f = some c) : ∃ b, x = .ok b ∧ f b = c := by
  cases x with
  | ok b => exact ⟨b, rfl, Option.some.inj shown⟩
  | error e => cases shown

theorem bind_eq_ok {x : Except ε β} {f : β → Except ε γ} {c : γ} :
    x >>= f = .ok c ↔ ∃ b, x = .ok b ∧ f b = .ok c := by
  cases x with
  | ok b =>
    constructor
    · intro h
      exact ⟨b, rfl, h⟩
    · rintro ⟨_, h, done⟩
      cases h
      exact done
  | error e =>
    constructor
    · intro h
      cases h
    · rintro ⟨_, h, _⟩
      cases h

theorem bind_eq_error {x : Except ε β} {f : β → Except ε γ} {e : ε} :
    x >>= f = .error e ↔ x = .error e ∨ ∃ b, x = .ok b ∧ f b = .error e := by
  cases x with
  | ok b =>
    constructor
    · intro h
      exact .inr ⟨b, rfl, h⟩
    · rintro (h | ⟨_, h, failed⟩)
      · cases h
      · cases h
        exact failed
  | error d =>
    constructor
    · intro h
      cases h
      exact .inl rfl
    · rintro (h | ⟨_, h, _⟩)
      · cases h
        rfl
      · cases h

theorem map_eq_ok {x : Except ε β} {f : β → γ} {c : γ} :
    x.map f = .ok c ↔ ∃ b, x = .ok b ∧ f b = c := by
  cases x <;> simp [Except.map]

theorem map_eq_error {x : Except ε β} {f : β → γ} {e : ε} : x.map f = .error e ↔ x = .error e := by
  cases x <;> simp [Except.map]

theorem map_bind (x : Except ε β) (f : β → Except ε γ) (g : γ → δ) :
    (x >>= f).map g = x >>= fun b => (f b).map g := by
  cases x <;> rfl

theorem ofSettings_eq_ok {x : Except SettingsError β} {b : β} :
    Error.ofSettings x = .ok b ↔ x = .ok b := by
  cases x <;> simp [Error.ofSettings]

theorem ofSettings_eq_error {x : Except SettingsError β} {e : Error} :
    Error.ofSettings x = .error e ↔ ∃ cause, x = .error cause ∧ e = .settings cause := by
  cases x <;> simp [Error.ofSettings, eq_comm]

theorem getElem?_mapM {f : β → Except ε γ} {l : List β} {m : List γ} (done : l.mapM f = .ok m)
    (i : Nat) : m[i]?.map .ok = l[i]?.map f := by
  induction l generalizing m i with
  | nil =>
    cases done
    rfl
  | cons b rest ih =>
    simp only [List.mapM_cons, bind_eq_ok] at done
    obtain ⟨c, head, others, tail, equal⟩ := done
    cases equal
    cases i with
    | zero => simp [head]
    | succ i => simpa using ih tail i

theorem mem_of_mapM {f : β → Except ε γ} {l : List β} {m : List γ} (done : l.mapM f = .ok m)
    {c : γ} (member : c ∈ m) : ∃ b ∈ l, f b = .ok c := by
  obtain ⟨i, inside⟩ := List.mem_iff_getElem?.mp member
  have place := getElem?_mapM done i
  rw [inside, Option.map_some, eq_comm, Option.map_eq_some_iff] at place
  obtain ⟨b, known, made⟩ := place
  exact ⟨b, List.mem_of_getElem? known, made⟩

theorem find?_mapM {f : β → Except ε γ} {p : β → Bool} {q : γ → Bool} {l : List β} {m : List γ}
    (agree : ∀ b ∈ l, ∀ c, f b = .ok c → q c = p b) (done : l.mapM f = .ok m) :
    m.find? q = (l.find? p).bind fun b => (f b).toOption := by
  induction l generalizing m with
  | nil =>
    cases done
    rfl
  | cons b rest ih =>
    simp only [List.mapM_cons, bind_eq_ok] at done
    obtain ⟨c, head, others, tail, equal⟩ := done
    cases equal
    have tail := ih (fun b member => agree b (List.mem_cons_of_mem _ member)) tail
    rw [List.find?_cons, List.find?_cons, agree b List.mem_cons_self c head, tail]
    cases p b with
    | false => rfl
    | true => simp [head, Except.toOption]

theorem mapM_congr {f g : β → Except ε γ} {l : List β} (same : ∀ b ∈ l, f b = g b) :
    l.mapM f = l.mapM g := by
  induction l with
  | nil => rfl
  | cons b rest ih =>
    rw [List.mapM_cons, List.mapM_cons, same b List.mem_cons_self,
      ih fun b member => same b (List.mem_cons_of_mem _ member)]

theorem fault?_mapM (f : β → Except ε γ) (l : List β) :
    fault? (l.mapM f) = l.findSome? fun b => fault? (f b) := by
  induction l with
  | nil => rfl
  | cons b rest ih =>
    rw [List.mapM_cons, List.findSome?_cons, ← ih]
    cases f b with
    | error e => rfl
    | ok c => cases rest.mapM f <;> rfl

theorem mapM_eq_error {f : β → Except ε γ} {l : List β} {e : ε} :
    l.mapM f = .error e ↔
      ∃ before b after, l = before ++ b :: after ∧ (∀ a ∈ before, ∃ c, f a = .ok c) ∧
        f b = .error e := by
  rw [← fault?_eq_some, fault?_mapM, List.findSome?_eq_some_iff]
  simp only [fault?_eq_some, fault?_eq_none]
  constructor
  · rintro ⟨before, b, after, equal, failed, fine⟩
    exact ⟨before, b, after, equal, fine, failed⟩
  · rintro ⟨before, b, after, equal, fine, failed⟩
    exact ⟨before, b, after, equal, failed, fine⟩

theorem mapM_ok_iff {f : β → Except ε γ} {l : List β} :
    (∃ m, l.mapM f = .ok m) ↔ ∀ b ∈ l, ∃ c, f b = .ok c := by
  simp only [← fault?_eq_none, fault?_mapM, List.findSome?_eq_none_iff]

theorem mapM_eq_ok {f : β → Except ε γ} {l : List β} {m : List γ} :
    l.mapM f = .ok m ↔ List.Forall₂ (fun b c => f b = .ok c) l m := by
  induction l generalizing m with
  | nil =>
    rw [List.forall₂_nil_left_iff]
    exact ⟨fun done => (Except.ok.inj done).symm, fun none => none ▸ rfl⟩
  | cons b rest ih =>
    simp only [List.mapM_cons, bind_eq_ok, List.forall₂_cons_left_iff, ih]
    constructor
    · rintro ⟨c, head, others, tail, equal⟩
      cases equal
      exact ⟨c, others, head, tail, rfl⟩
    · rintro ⟨c, others, head, tail, rfl⟩
      exact ⟨c, head, others, tail, rfl⟩

theorem foldlM_invariant (inv : List β → δ → Prop) {step : δ → β → Except ε δ}
    (kept : ∀ before d b d', inv before d → step d b = .ok d' → inv (before ++ [b]) d')
    {l : List β} {d d' : δ} (start : inv [] d) (done : l.foldlM step d = .ok d') : inv l d' := by
  induction l generalizing inv d with
  | nil =>
    cases done
    exact start
  | cons b rest ih =>
    simp only [List.foldlM_cons, bind_eq_ok] at done
    obtain ⟨next, head, tail⟩ := done
    exact ih (fun before => inv (b :: before)) (fun before => kept (b :: before))
      (kept [] d b next start head) tail

/-- Steps whose faults do not depend on the state, as long as it is sound, fail with the first of
these faults. -/
theorem fault?_foldlM (sound : δ → Prop) (fault : β → Option ε) {step : δ → β → Except ε δ}
    (l : List β) (kept : ∀ d, ∀ b ∈ l, ∀ d', sound d → step d b = .ok d' → sound d')
    (told : ∀ d, ∀ b ∈ l, sound d → fault? (step d b) = fault b) {d : δ} (start : sound d) :
    fault? (l.foldlM step d) = l.findSome? fault := by
  induction l generalizing d with
  | nil => rfl
  | cons b rest ih =>
    rw [List.foldlM_cons, List.findSome?_cons, ← told d b List.mem_cons_self start]
    cases head : step d b with
    | error e => rfl
    | ok next =>
      exact ih (fun d b member => kept d b (List.mem_cons_of_mem _ member))
        (fun d b member => told d b (List.mem_cons_of_mem _ member))
        (kept d b List.mem_cons_self next start head)

theorem findSome?_ascending {below : β → β → Prop} (irrefl : ∀ b, ¬ below b b)
    (asymm : ∀ a b, below a b → ¬ below b a) {l : List β} (ascending : l.Pairwise below)
    {fault : β → Option ε} {e : ε} :
    l.findSome? fault = some e ↔
      ∃ b ∈ l, fault b = some e ∧ ∀ a ∈ l, below a b → fault a = none := by
  constructor
  · intro found
    obtain ⟨before, b, after, rfl, here, clear⟩ := List.findSome?_eq_some_iff.mp found
    refine ⟨b, by simp, here, fun a member less => ?_⟩
    rcases List.mem_append.mp member with inBefore | inRest
    · exact clear a inBefore
    · have above := List.pairwise_cons.mp (List.pairwise_append.mp ascending).2.1
      rcases List.mem_cons.mp inRest with rfl | inAfter
      · exact absurd less (irrefl a)
      · exact absurd less (asymm b a (above.1 a inAfter))
  · rintro ⟨b, member, here, clear⟩
    obtain ⟨before, after, rfl⟩ := List.append_of_mem member
    refine List.findSome?_eq_some_iff.mpr ⟨before, b, after, rfl, here, fun a inBefore => ?_⟩
    exact clear a (by simp [inBefore])
      ((List.pairwise_append.mp ascending).2.2 a inBefore b List.mem_cons_self)

end DetectorGeometry.Outcome
