import DetectorGeometry.Settings.Document
import DetectorGeometry.Table.Lemmas

/-!
The sections that lines make. Lines can be cut anywhere: what stands in front of the cut closes some
sections and leaves one open (`Document.sectionsFrom_append`), and what stands behind it adds
settings to that one and opens others (`Document.sectionsFrom_leading`).
-/
namespace DetectorGeometry

namespace Section

def setAll (s : Section) (entries : List (String × String)) : Section :=
  entries.foldl (fun s entry => s.set entry.1 entry.2) s

def amend (s other : Section) : Section :=
  { s with settings := other.settings.union s.settings }

def relocate (s : Section) (source : Option Path) : Section := { s with path := source }

theorem ext {s t : Section} (name : s.name = t.name) (path : s.path = t.path)
    (settings : ∀ key, s.settings.get? key = t.settings.get? key) : s = t := by
  cases s
  cases t
  cases name
  cases path
  cases Table.ext_get? settings
  rfl

section SetAll

variable {s : Section} {entries : List (String × String)}

@[simp] theorem setAll_nil : s.setAll [] = s := rfl

@[simp] theorem setAll_cons {key value : String} :
    s.setAll ((key, value) :: entries) = (s.set key value).setAll entries := rfl

@[simp] theorem name_setAll : (s.setAll entries).name = s.name := by
  induction entries generalizing s with
  | nil => rfl
  | cons entry rest ih => exact ih

@[simp] theorem path_setAll : (s.setAll entries).path = s.path := by
  induction entries generalizing s with
  | nil => rfl
  | cons entry rest ih => exact ih

theorem isAnonymous_setAll : (s.setAll entries).isAnonymous = s.isAnonymous := by
  simp [isAnonymous]

theorem get?_set (s : Section) (key value other : String) :
    (s.set key value).settings.get? other =
      if key = other then some value else s.settings.get? other :=
  Table.get?_insert _ _ _ _

theorem get?_setAll (blank : Section) (noSettings : blank.settings = .empty) (key : String) :
    (s.setAll entries).settings.get? key =
      ((blank.setAll entries).settings.get? key).or (s.settings.get? key) := by
  induction entries generalizing s blank with
  | nil => simp [noSettings]
  | cons entry rest ih =>
    have onSection := ih (s := s.set entry.1 entry.2) blank noSettings
    have onBlank := ih (s := blank.set entry.1 entry.2) blank noSettings
    simp only [setAll, List.foldl_cons] at onSection onBlank ⊢
    rw [onSection, onBlank, get?_set, get?_set, noSettings, Table.get?_empty]
    by_cases same : entry.1 = key
    · simp [same]
    · simp [same]

theorem get?_setAll_of_notMem {key : String} (absent : key ∉ entries.map (·.1)) :
    (s.setAll entries).settings.get? key = s.settings.get? key := by
  induction entries generalizing s with
  | nil => rfl
  | cons entry rest ih =>
    rw [List.map_cons, List.mem_cons, not_or] at absent
    rw [setAll_cons, ih absent.2, get?_set, if_neg (Ne.symm absent.1)]

theorem get?_setAll_of_mem {key value : String} (distinct : (entries.map (·.1)).Nodup)
    (member : (key, value) ∈ entries) :
    (s.setAll entries).settings.get? key = some value := by
  induction entries generalizing s with
  | nil => cases member
  | cons entry rest ih =>
    rw [List.map_cons, List.nodup_cons] at distinct
    rcases List.mem_cons.mp member with rfl | member
    · rw [setAll_cons, get?_setAll_of_notMem distinct.1, get?_set, if_pos rfl]
    · exact ih distinct.2 member

theorem setAll_of_perm {t : Section} {name : String} {source : Option Path}
    (same : entries.Perm t.settings.entries) (named : t.name = name) :
    (new name source).setAll entries = t.relocate source := by
  have distinct : (entries.map (·.1)).Nodup :=
    ((same.map (·.1)).nodup_iff).mpr t.settings.nodup_keys
  refine ext ?_ ?_ fun key => ?_
  · rw [name_setAll]
    exact named.symm
  · rw [path_setAll]
    rfl
  · cases found : t.settings.get? key with
    | some value =>
      have member := same.mem_iff.mpr ((Table.mem_entries_iff _ _ _).mpr found)
      exact (get?_setAll_of_mem distinct member).trans found.symm
    | none =>
      have absent : key ∉ entries.map (·.1) := by
        intro member
        have inTable := (Table.mem_keys_iff _ _).mp ((same.map (·.1)).mem_iff.mp member)
        simp [Table.contains_eq, found] at inTable
      exact (get?_setAll_of_notMem absent).trans found.symm

theorem amend_setAll (other : Section) (noSettings : other.settings = .empty) :
    s.amend (other.setAll entries) = s.setAll entries := by
  refine ext ?_ ?_ fun key => ?_
  · simp [amend]
  · simp [amend]
  · rw [get?_setAll other noSettings]
    exact Table.get?_union _ _ key

theorem eq_new_of_isEmpty {source : Option Path} {name : String}
    (empty : ((new name source).setAll entries).isEmpty = true) :
    (new name source).setAll entries = new name source :=
  ext name_setAll path_setAll (Table.isEmpty_iff.mp empty)

end SetAll

end Section

namespace Document

variable {source : Option Path}

def openSection (source : Option Path) (current : Section) : List Line → Section
  | [] => current
  | .empty :: rest => openSection source current rest
  | .header name :: rest => openSection source (.new name source) rest
  | .setting key value :: rest => openSection source (current.set key value) rest

def closedSections (source : Option Path) (current : Section) : List Line → List Section
  | [] => []
  | .empty :: rest => closedSections source current rest
  | .header name :: rest => finish current ++ closedSections source (.new name source) rest
  | .setting key value :: rest => closedSections source (current.set key value) rest

theorem sectionsFrom_append (current : Section) (before after : List Line) :
    sectionsFrom source current (before ++ after) =
      closedSections source current before ++
        sectionsFrom source (openSection source current before) after := by
  induction before generalizing current with
  | nil => rfl
  | cons line before ih =>
    cases line with
    | empty => exact ih current
    | header name =>
      rw [List.cons_append, sectionsFrom, ih, closedSections, openSection, List.append_assoc]
    | setting key value => exact ih (current.set key value)

theorem sectionsFrom_eq (current : Section) (lines : List Line) :
    sectionsFrom source current lines =
      closedSections source current lines ++ finish (openSection source current lines) := by
  rw [← List.append_nil lines, sectionsFrom_append, List.append_nil]
  rfl

def leadingSettings : List Line → List (String × String)
  | [] => []
  | .empty :: rest => leadingSettings rest
  | .header _ :: _ => []
  | .setting key value :: rest => (key, value) :: leadingSettings rest

def headedSections (source : Option Path) : List Line → List Section
  | [] => []
  | .header name :: rest => sectionsFrom source (.new name source) rest
  | .empty :: rest => headedSections source rest
  | .setting _ _ :: rest => headedSections source rest

theorem sectionsFrom_leading (current : Section) (lines : List Line) :
    sectionsFrom source current lines =
      finish (current.setAll (leadingSettings lines)) ++ headedSections source lines := by
  induction lines generalizing current with
  | nil => simp [sectionsFrom, leadingSettings, headedSections]
  | cons line rest ih =>
    cases line with
    | empty => exact ih current
    | header name => rfl
    | setting key value => exact ih (current.set key value)

def Headed (lines : List Line) : Prop := ∀ name, Line.header name ∈ lines → name ≠ ""

theorem Headed.of_cons {line : Line} {rest : List Line} (headed : Headed (line :: rest)) :
    Headed rest := fun name member => headed name (List.mem_cons_of_mem _ member)

theorem Headed.new {name : String} {rest : List Line} (headed : Headed (.header name :: rest)) :
    (Section.new name source).isAnonymous = false := by
  simpa [Section.isAnonymous, Section.new] using headed name List.mem_cons_self

theorem finish_of_named {s : Section} (named : s.isAnonymous = false) : finish s = [s] := by
  simp [finish, named]

theorem finish_new : finish (.new "" source) = [] := rfl

theorem named_sectionsFrom {lines : List Line} (headed : Headed lines) {current : Section}
    (named : current.isAnonymous = false) :
    ∀ s ∈ sectionsFrom source current lines, s.isAnonymous = false := by
  induction lines generalizing current with
  | nil => simpa [sectionsFrom, finish_of_named named] using named
  | cons line rest ih =>
    cases line with
    | empty => exact ih headed.of_cons named
    | setting key value => exact ih headed.of_cons named
    | header name =>
      rw [sectionsFrom, finish_of_named named]
      intro s member
      rcases List.mem_cons.mp member with rfl | member
      · exact named
      · exact ih headed.of_cons headed.new s member

theorem named_headedSections (source : Option Path) {lines : List Line} (headed : Headed lines) :
    ∀ s ∈ headedSections source lines, s.isAnonymous = false := by
  induction lines with
  | nil => simp [headedSections]
  | cons line rest ih =>
    cases line with
    | empty => exact ih headed.of_cons
    | setting key value => exact ih headed.of_cons
    | header name => exact named_sectionsFrom headed.of_cons headed.new

theorem openSection_anonymous {lines : List Line} (headed : Headed lines) {current : Section}
    (anonymous : (openSection source current lines).isAnonymous = true) :
    closedSections source current lines = [] ∧
      openSection source current lines = current.setAll (leadingSettings lines) := by
  induction lines generalizing current with
  | nil => exact ⟨rfl, rfl⟩
  | cons line rest ih =>
    cases line with
    | empty => exact ih headed.of_cons anonymous
    | setting key value => exact ih headed.of_cons anonymous
    | header name =>
      obtain ⟨_, same⟩ := ih headed.of_cons anonymous
      have named : (Section.new name source).isAnonymous = false := headed.new
      rw [openSection, same, Section.isAnonymous_setAll, named] at anonymous
      cases anonymous

end Document

end DetectorGeometry
