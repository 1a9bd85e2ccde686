import DetectorGeometry.Settings.Document
import DetectorGeometry.Table.Lemmas

namespace DetectorGeometry

namespace Section

theorem name_of_isAnonymous {s : Section} (anonymous : s.isAnonymous = true) : s.name = "" := by
  simpa [isAnonymous] using anonymous

theorem get?_merge (s t : Section) (key : String) :
    (s.merge t).settings.get? key = (s.settings.get? key).or (t.settings.get? key) :=
  Table.get?_union s.settings t.settings key

theorem isAnonymous_merge (s t : Section) : (s.merge t).isAnonymous = s.isAnonymous := rfl

theorem merge_assoc (s t u : Section) : (s.merge t).merge u = s.merge (t.merge u) := by
  have same : (s.settings.union t.settings).union u.settings =
      s.settings.union (t.settings.union u.settings) := by
    apply Table.ext_get?
    intro key
    simp only [Table.get?_union, Option.or_assoc]
  simp only [merge, same]

theorem merge_self (s : Section) : s.merge s = s := by
  have same : s.settings.union s.settings = s.settings := by
    apply Table.ext_get?
    intro key
    simp only [Table.get?_union, Option.or_self]
  simp only [merge, same]

theorem merge_new (s : Section) (name : String) (path : Option Path) :
    s.merge (.new name path) = s := rfl

theorem merge_merge_self (s t : Section) : (s.merge t).merge t = s.merge t := by
  rw [merge_assoc, merge_self]

theorem isAnonymous_foldl_merge (others : List Section) (s : Section) :
    (others.foldl merge s).isAnonymous = s.isAnonymous := by
  induction others generalizing s with
  | nil => rfl
  | cons t rest ih => rw [List.foldl_cons, ih, isAnonymous_merge]

theorem path_foldl_merge (others : List Section) (s : Section) :
    (others.foldl merge s).path = s.path := by
  induction others generalizing s with
  | nil => rfl
  | cons t rest ih =>
    rw [List.foldl_cons, ih]
    rfl

theorem get?_foldl_merge (others : List Section) (s : Section) (key : String) :
    (others.foldl merge s).settings.get? key =
      (s.settings.get? key).or (others.findSome? (·.settings.get? key)) := by
  induction others generalizing s with
  | nil => simp
  | cons t rest ih =>
    rw [List.foldl_cons, ih, get?_merge, Option.or_assoc, List.findSome?_cons]
    cases t.settings.get? key <;> rfl

theorem foldl_merge_merge (others : List Section) (s t : Section) :
    others.foldl merge (s.merge t) = s.merge (others.foldl merge t) := by
  induction others generalizing t with
  | nil => rfl
  | cons u rest ih => rw [List.foldl_cons, List.foldl_cons, merge_assoc, ih]

end Section

namespace Document

theorem isAnonymous_header (d : Document) : d.header.isAnonymous = true := by
  unfold header
  split
  case h_1 => rfl
  case h_2 first others all =>
    rw [Section.isAnonymous_foldl_merge]
    have member : first ∈ d.anonymous := by simp [all]
    exact (List.mem_filter.mp member).2

theorem header_of_anonymous {d : Document} {first : Section} {others : List Section}
    (all : d.anonymous = first :: others) : d.header = others.foldl .merge first := by
  unfold header
  rw [all]

theorem isAnonymous_of_mem_named {d : Document} {s : Section} (member : s ∈ d.named) :
    s.isAnonymous = false := by
  simpa using (List.mem_filter.mp member).2

theorem anonymous_append_named (front : List Section) (d : Document)
    (isFront : ∀ s ∈ front, s.isAnonymous = true) :
    (⟨front ++ d.named⟩ : Document).anonymous = front := by
  have rest : d.named.filter (·.isAnonymous) = [] :=
    List.filter_eq_nil_iff.mpr fun s member => by simp [isAnonymous_of_mem_named member]
  rw [anonymous, List.filter_append, List.filter_eq_self.mpr isFront, rest, List.append_nil]

theorem named_append_named (front : List Section) (d : Document)
    (isFront : ∀ s ∈ front, s.isAnonymous = true) :
    (⟨front ++ d.named⟩ : Document).named = d.named := by
  have none : front.filter (fun s => !s.isAnonymous) = [] :=
    List.filter_eq_nil_iff.mpr fun s member => by simp [isFront s member]
  have all : d.named.filter (fun s => !s.isAnonymous) = d.named :=
    List.filter_eq_self.mpr fun s member => by simp [isAnonymous_of_mem_named member]
  rw [named, List.filter_append, none, all, List.nil_append]

theorem withName_eq_named {name : String} (isName : name ≠ "") (d : Document) :
    d.withName name = d.named.filter fun s => Text.sameIgnoringCase s.name name := by
  rw [withName, named, List.filter_filter]
  apply List.filter_congr
  intro s _
  cases anonymous : s.isAnonymous with
  | false => simp
  | true =>
    have differs : Text.sameIgnoringCase s.name name = false := by
      rw [Section.name_of_isAnonymous anonymous]
      simpa [Text.sameIgnoringCase] using isName
    simp [differs]

theorem path_header (d : Document) :
    d.header.path = (d.sections.find? (·.isAnonymous)).bind (·.path) := by
  rw [← List.head?_filter]
  change _ = d.anonymous.head?.bind (·.path)
  cases all : d.anonymous with
  | nil =>
    rw [header, all]
    rfl
  | cons first others =>
    rw [header_of_anonymous all, Section.path_foldl_merge]
    rfl

theorem find?_anonymous_with (key : String) (sections : List Section) :
    (sections.filter (·.isAnonymous)).findSome? (·.settings.get? key) =
      (sections.find? fun s => s.isAnonymous && s.has key).bind (·.settings.get? key) := by
  induction sections with
  | nil => rfl
  | cons s rest ih =>
    rw [List.filter_cons, List.find?_cons]
    cases anonymous : s.isAnonymous with
    | false => exact ih
    | true =>
      rw [if_pos rfl, List.findSome?_cons, Section.has, Table.contains_eq]
      cases found : s.settings.get? key with
      | none => exact ih
      | some value => exact found.symm

theorem get?_header (d : Document) (key : String) :
    d.header.settings.get? key =
      (d.sections.find? fun s => s.isAnonymous && s.has key).bind (·.settings.get? key) := by
  rw [← find?_anonymous_with]
  change _ = d.anonymous.findSome? (·.settings.get? key)
  cases all : d.anonymous with
  | nil =>
    rw [header, all]
    rfl
  | cons first others =>
    rw [header_of_anonymous all, Section.get?_foldl_merge, List.findSome?_cons]
    cases first.settings.get? key <;> rfl

theorem has_header (d : Document) (key : String) :
    d.header.has key = true ↔ ∃ s ∈ d.sections, s.isAnonymous = true ∧ s.has key = true := by
  rw [Section.has, Table.contains_eq, get?_header, ← find?_anonymous_with,
    List.findSome?_isSome_iff]
  simp only [List.mem_filter, and_assoc]
  rfl

/-- Documents that differ in their named sections only, which are put in and taken out one by one;
to move one is to do both. -/
inductive Rearranged (d : Document) : Document → Prop
  | same : Rearranged d d
  | put (before after : List Section) {s : Section} (reached : Rearranged d ⟨before ++ after⟩)
      (named : s.isAnonymous = false) : Rearranged d ⟨before ++ s :: after⟩
  | taken (before after : List Section) {s : Section}
      (reached : Rearranged d ⟨before ++ s :: after⟩) (named : s.isAnonymous = false) :
      Rearranged d ⟨before ++ after⟩

theorem anonymous_insert {s : Section} (named : s.isAnonymous = false)
    (before after : List Section) :
    (⟨before ++ s :: after⟩ : Document).anonymous = (⟨before ++ after⟩ : Document).anonymous := by
  simp [anonymous, named]

theorem Rearranged.header_eq {d e : Document} (rearranged : d.Rearranged e) :
    e.header = d.header := by
  have anonymous : e.anonymous = d.anonymous := by
    induction rearranged with
    | same => rfl
    | put _ _ reached named ih => rw [anonymous_insert named, ih]
    | taken _ _ reached named ih => rw [← anonymous_insert named, ih]
  rw [header, header, anonymous]

/-- The header of two documents in a row, the first of which has an anonymous section. -/
theorem header_append {d : Document} (some : ∃ s ∈ d.sections, s.isAnonymous = true)
    (e : Document) :
    (⟨d.sections ++ e.sections⟩ : Document).header = d.header.merge e.header := by
  obtain ⟨s, inside, unnamed⟩ := some
  have member : s ∈ d.anonymous := List.mem_filter.mpr ⟨inside, unnamed⟩
  obtain ⟨first, others, all⟩ := List.exists_cons_of_ne_nil (List.ne_nil_of_mem member)
  have whole : (⟨d.sections ++ e.sections⟩ : Document).anonymous =
      first :: (others ++ e.anonymous) := by
    rw [← List.cons_append, ← all]
    exact List.filter_append ..
  rw [header_of_anonymous whole, header_of_anonymous all, List.foldl_append]
  cases rest : e.anonymous with
  | nil =>
    rw [header, rest]
    exact (Section.merge_new _ _ _).symm
  | cons next others => rw [header_of_anonymous rest, List.foldl_cons, Section.foldl_merge_merge]

/-- The header is the union of the anonymous sections, in which the first text of a key counts;
sections with a name do not matter to it, wherever they stand. -/
theorem header_unites (d e : Document) (s t u : Section) :
    (∀ key, d.header.has key = true ↔
      ∃ a ∈ d.sections, a.isAnonymous = true ∧ a.has key = true) ∧
    (∀ key, d.header.settings.get? key =
      (d.sections.find? fun a => a.isAnonymous && a.has key).bind (·.settings.get? key)) ∧
    d.header.path = (d.sections.find? (·.isAnonymous)).bind (·.path) ∧
    (∀ other, d.Rearranged other → other.header = d.header) ∧
    ((∃ a ∈ d.sections, a.isAnonymous = true) →
      (⟨d.sections ++ e.sections⟩ : Document).header = d.header.merge e.header) ∧
    (s.merge t).merge u = s.merge (t.merge u) ∧
    s.merge s = s ∧ (s.merge t).merge t = s.merge t ∧
    ∀ key value, s.settings.get? key = some value → (s.merge t).settings.get? key = some value := by
  refine ⟨d.has_header, d.get?_header, d.path_header, fun other rearranged => rearranged.header_eq,
    fun some => header_append some e, s.merge_assoc t u, s.merge_self, s.merge_merge_self t, ?_⟩
  intro key value found
  rw [Section.get?_merge, found]
  rfl

end Document

namespace Sample

def crate : Section := (Section.new "crate" none).set "x" "9"

def frontSettings : Section := (Section.new "" (some ⟨"front.conf"⟩)).set "x" "1"

def backSettings : Section := ((Section.new "" none).set "x" "2").set "y" "3"

def mingled : Document := ⟨[crate, frontSettings, crate, backSettings]⟩

/-- The crate in front moves to the end, and the header is that of the first settings followed by
the others. -/
theorem mingled_header :
    mingled.header.has "y" = true ∧ mingled.header.settings.get? "x" = some "1" ∧
    mingled.header.path = some ⟨"front.conf"⟩ ∧
    (⟨[frontSettings, crate, backSettings, crate]⟩ : Document).header = mingled.header ∧
    (⟨mingled.sections ++ [backSettings]⟩ : Document).header =
      mingled.header.merge (⟨[backSettings]⟩ : Document).header ∧
    (frontSettings.merge backSettings).settings.get? "x" = some "1" := by
  obtain ⟨keys, texts, path, moved, appended, _, _, _, kept⟩ :=
    Document.header_unites mingled ⟨[backSettings]⟩ frontSettings backSettings crate
  refine ⟨(keys "y").mpr ⟨backSettings, by decide, by decide +kernel⟩, ?_, ?_, ?_, ?_, ?_⟩
  · rw [texts]
    decide +kernel
  · rw [path]
    decide +kernel
  · apply moved
    have outside : mingled.Rearranged ⟨[frontSettings, crate, backSettings]⟩ :=
      .taken [] [frontSettings, crate, backSettings] .same (by decide)
    exact .put [frontSettings, crate, backSettings] [] outside (by decide)
  · exact appended ⟨frontSettings, by decide, by decide⟩
  · exact kept "x" "1" (by decide +kernel)

end Sample

end DetectorGeometry
