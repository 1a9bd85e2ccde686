import DetectorGeometry.Text.Blank
import Mathlib.Data.List.TakeWhile

namespace DetectorGeometry.Text

structure Trimmed (cs : List Char) : Prop where
  first : ∀ c, cs.head? = some c → isBlank c = false
  last : ∀ c, cs.getLast? = some c → isBlank c = false

theorem trimmed_nil : Trimmed [] := ⟨by simp, by simp⟩

def Blanks (cs : List Char) : Prop := ∀ c ∈ cs, isBlank c = true

theorem blanks_nil : Blanks [] := List.forall_mem_nil _

theorem Blanks.append {cs ds : List Char} (blank : Blanks cs) (blank' : Blanks ds) :
    Blanks (cs ++ ds) :=
  List.forall_mem_append.mpr ⟨blank, blank'⟩

theorem Blanks.reverse {cs : List Char} (blank : Blanks cs) : Blanks cs.reverse :=
  fun c member => blank c (List.mem_reverse.mp member)

theorem trimEnd_eq_reverse (cs : List Char) : trimEnd cs = (trimStart cs.reverse).reverse := rfl

theorem exists_trimStart (cs : List Char) : ∃ front, Blanks front ∧ cs = front ++ trimStart cs :=
  ⟨cs.takeWhile isBlank, fun _ member => List.mem_takeWhile_imp member,
    List.takeWhile_append_dropWhile.symm⟩

theorem exists_trimEnd (cs : List Char) : ∃ back, Blanks back ∧ cs = trimEnd cs ++ back := by
  obtain ⟨front, blank, parts⟩ := exists_trimStart cs.reverse
  refine ⟨front.reverse, blank.reverse, ?_⟩
  rw [trimEnd_eq_reverse, ← List.reverse_append, ← parts, List.reverse_reverse]

theorem exists_trim (cs : List Char) :
    ∃ front back, Blanks front ∧ Blanks back ∧ cs = front ++ (trim cs ++ back) := by
  obtain ⟨front, blank, start⟩ := exists_trimStart cs
  obtain ⟨back, blank', rest⟩ := exists_trimEnd (trimStart cs)
  exact ⟨front, back, blank, blank', start.trans (congrArg (front ++ ·) rest)⟩

theorem trimStart_blanks_append {front : List Char} (blank : Blanks front) (cs : List Char) :
    trimStart (front ++ cs) = trimStart cs :=
  List.dropWhile_append_of_pos blank

theorem trimEnd_append_blanks {back : List Char} (blank : Blanks back) (cs : List Char) :
    trimEnd (cs ++ back) = trimEnd cs := by
  rw [trimEnd_eq_reverse, List.reverse_append, trimStart_blanks_append blank.reverse]
  rfl

theorem trimStart_append_cons {c : Char} (solid : isBlank c = false) (before after : List Char) :
    trimStart (before ++ c :: after) = trimStart before ++ c :: after := by
  induction before with
  | nil => exact trimStart_cons after solid
  | cons b before ih =>
    cases blank : isBlank b with
    | false =>
      rw [List.cons_append, trimStart_cons _ blank, trimStart_cons _ blank, List.cons_append]
    | true => simpa [trimStart, blank] using ih

theorem trimEnd_append_cons {c : Char} (solid : isBlank c = false) (before after : List Char) :
    trimEnd (before ++ c :: after) = before ++ c :: trimEnd after := by
  have swapped := trimStart_append_cons solid after.reverse before.reverse
  rw [trimEnd_eq_reverse, List.reverse_append, List.reverse_cons, List.append_assoc,
    List.singleton_append, swapped]
  simp [trimEnd_eq_reverse]

theorem trim_append_cons {c : Char} (solid : isBlank c = false) (before after : List Char) :
    trim (before ++ c :: after) = trimStart before ++ c :: trimEnd after := by
  rw [trim, trimStart_append_cons solid, trimEnd_append_cons solid]

theorem trim_cons {c : Char} (solid : isBlank c = false) (rest : List Char) :
    trim (c :: rest) = c :: trimEnd rest :=
  trim_append_cons solid [] rest

theorem trimStart_eq_nil {cs : List Char} (blank : Blanks cs) : trimStart cs = [] :=
  List.dropWhile_eq_nil_iff.mpr blank

theorem trimEnd_eq_nil {cs : List Char} (blank : Blanks cs) : trimEnd cs = [] := by
  rw [trimEnd_eq_reverse, trimStart_eq_nil blank.reverse]
  rfl

theorem blanks_or_solid (cs : List Char) :
    Blanks cs ∨ ∃ before c after, cs = before ++ c :: after ∧ isBlank c = false := by
  by_cases exists_solid : ∃ c ∈ cs, isBlank c = false
  · obtain ⟨c, member, solid⟩ := exists_solid
    obtain ⟨before, after, parts⟩ := List.append_of_mem member
    exact .inr ⟨before, c, after, parts, solid⟩
  · refine .inl fun c member => ?_
    cases blank : isBlank c with
    | true => rfl
    | false => exact absurd ⟨c, member, blank⟩ exists_solid

theorem trim_blanks_append {front : List Char} (blank : Blanks front) (cs : List Char) :
    trim (front ++ cs) = trim cs := by
  rw [trim, trimStart_blanks_append blank, trim]

theorem trim_append_blanks {back : List Char} (blank : Blanks back) (cs : List Char) :
    trim (cs ++ back) = trim cs := by
  rcases blanks_or_solid cs with allBlank | ⟨before, c, after, rfl, solid⟩
  · rw [trim_blanks_append allBlank, trim, trim, trimStart_eq_nil blank, trimStart_eq_nil allBlank]
  · rw [List.append_assoc, List.cons_append, trim_append_cons solid, trim_append_cons solid,
      trimEnd_append_blanks blank]

theorem trim_trimStart (cs : List Char) : trim (trimStart cs) = trim cs := by
  obtain ⟨front, blank, parts⟩ := exists_trimStart cs
  conv => rhs; rw [parts]
  exact (trim_blanks_append blank _).symm

theorem trim_trimEnd (cs : List Char) : trim (trimEnd cs) = trim cs := by
  obtain ⟨back, blank, parts⟩ := exists_trimEnd cs
  conv => rhs; rw [parts]
  exact (trim_append_blanks blank _).symm

theorem Trimmed.reverse {cs : List Char} (trimmed : Trimmed cs) : Trimmed cs.reverse :=
  ⟨fun c first => trimmed.last c (by simpa using first),
    fun c last => trimmed.first c (by simpa using last)⟩

theorem Trimmed.trimStart_eq {cs : List Char} (trimmed : Trimmed cs) : trimStart cs = cs := by
  cases cs with
  | nil => rfl
  | cons c rest => exact trimStart_cons rest (trimmed.first c rfl)

theorem Trimmed.trimEnd_eq {cs : List Char} (trimmed : Trimmed cs) : trimEnd cs = cs := by
  rw [trimEnd_eq_reverse, trimmed.reverse.trimStart_eq, List.reverse_reverse]

theorem Trimmed.trim_eq {cs : List Char} (trimmed : Trimmed cs) : trim cs = cs := by
  rw [trim, trimmed.trimStart_eq, trimmed.trimEnd_eq]

theorem Trimmed.of_solid {cs : List Char} (solid : ∀ c ∈ cs, isBlank c = false) : Trimmed cs :=
  ⟨fun c first => solid c (List.mem_of_head? first),
    fun c last => solid c (List.mem_of_getLast? last)⟩

theorem Trimmed.append {cs ds : List Char} (first : Trimmed cs) (last : Trimmed ds)
    (nonempty : cs ≠ []) (nonempty' : ds ≠ []) (middle : List Char) :
    Trimmed (cs ++ (middle ++ ds)) := by
  obtain ⟨c, rest, rfl⟩ := List.exists_cons_of_ne_nil nonempty
  constructor
  · intro b head
    exact first.first b (by simpa using head)
  · intro b final
    obtain ⟨d, inLast⟩ := Option.isSome_iff_exists.mp (List.getLast?_isSome.mpr nonempty')
    rw [← List.append_assoc, List.getLast?_append, inLast] at final
    exact last.last b (inLast.trans final)

theorem trimStart_first {cs : List Char} {c : Char} (first : (trimStart cs).head? = some c) :
    isBlank c = false := by
  have kept := List.head?_dropWhile_not isBlank cs
  rw [show cs.dropWhile isBlank = trimStart cs from rfl, first] at kept
  simpa using kept

theorem trimEnd_last {cs : List Char} {c : Char} (last : (trimEnd cs).getLast? = some c) :
    isBlank c = false := by
  rw [trimEnd_eq_reverse, List.getLast?_reverse] at last
  exact trimStart_first last

theorem blanks_or_last_solid (cs : List Char) :
    Blanks cs ∨ ∃ front c back, cs = front ++ c :: back ∧ isBlank c = false ∧ Blanks back := by
  obtain ⟨back, blank, parts⟩ := exists_trimEnd cs
  rcases List.eq_nil_or_concat (trimEnd cs) with none | ⟨front, c, shape⟩
  · rw [none, List.nil_append] at parts
    exact .inl (parts ▸ blank)
  · have last : (trimEnd cs).getLast? = some c := by simp [shape]
    rw [shape, List.concat_eq_append, List.append_assoc, List.singleton_append] at parts
    exact .inr ⟨front, c, back, parts, trimEnd_last last, blank⟩

theorem head?_trim (cs : List Char) : (trim cs).head? = (trimStart cs).head? := by
  cases shape : trimStart cs with
  | nil =>
    rw [trim, shape]
    rfl
  | cons c rest =>
    have first : (trimStart cs).head? = some c := by rw [shape]; rfl
    rw [← trim_trimStart, shape, trim_cons (trimStart_first first)]
    rfl

theorem trimmed_trim (cs : List Char) : Trimmed (trim cs) := by
  refine ⟨fun c first => ?_, fun c last => trimEnd_last last⟩
  obtain ⟨back, _, parts⟩ := exists_trimEnd (trimStart cs)
  suffices kept : (trimStart cs).head? = some c from trimStart_first kept
  rw [parts]
  obtain ⟨rest, shape⟩ := List.head?_eq_some_iff.mp first
  rw [trim] at shape
  simp [shape]

theorem trimmed_iff {cs : List Char} : Trimmed cs ↔ trim cs = cs :=
  ⟨Trimmed.trim_eq, fun same => same ▸ trimmed_trim cs⟩

instance (cs : List Char) : Decidable (Trimmed cs) := decidable_of_iff _ trimmed_iff.symm

theorem mem_of_mem_trimStart {cs : List Char} {c : Char} (member : c ∈ trimStart cs) : c ∈ cs := by
  obtain ⟨front, _, parts⟩ := exists_trimStart cs
  rw [parts]
  exact List.mem_append_right _ member

theorem mem_of_mem_trim {cs : List Char} {c : Char} (member : c ∈ trim cs) : c ∈ cs := by
  obtain ⟨front, back, _, _, parts⟩ := exists_trim cs
  rw [parts]
  simp [member]

end DetectorGeometry.Text
