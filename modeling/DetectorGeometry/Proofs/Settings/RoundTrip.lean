import DetectorGeometry.Proofs.Settings.Composition
import Mathlib.Data.List.Forall2

namespace DetectorGeometry

/-- Lines that state a section: its header, unless it is anonymous, and its settings in any
order. -/
def Section.SpelledBy (s : Section) (lines : List Line) : Prop :=
  ∃ entries : List (String × String), entries.Perm s.settings.entries ∧
    lines = (if s.isAnonymous then [] else [.header s.name]) ++
      entries.map fun entry => .setting entry.1 entry.2

namespace Document

def textOf (lines : List Line) : String := String.join (lines.map (·.written ++ "\n"))

def SpelledBy (d : Document) (text : String) : Prop :=
  ∃ parts, List.Forall₂ Section.SpelledBy d.sections parts ∧ text = textOf parts.flatten

def relocate (d : Document) (source : Option Path) : Document :=
  ⟨d.sections.map (·.relocate source)⟩

/-- Documents that have a text: only the first section lacks a name, and then it has a setting, and
everything can stand on a line. -/
structure Writable (d : Document) : Prop where
  onlyFirst : ∀ s ∈ d.sections.tail, s.isAnonymous = false
  hasSettings : ∀ s ∈ d.sections, s.isAnonymous = true → s.isEmpty = false
  names : ∀ s ∈ d.sections, s.isAnonymous = false → WritableName s.name
  settings : ∀ s ∈ d.sections, ∀ entry ∈ s.settings.entries, WritableSetting entry.1 entry.2

instance (d : Document) : Decidable d.Writable :=
  decidable_of_iff ((∀ s ∈ d.sections.tail, s.isAnonymous = false) ∧
      (∀ s ∈ d.sections, s.isAnonymous = true → s.isEmpty = false) ∧
      (∀ s ∈ d.sections, s.isAnonymous = false → WritableName s.name) ∧
      ∀ s ∈ d.sections, ∀ entry ∈ s.settings.entries, WritableSetting entry.1 entry.2)
    ⟨fun ⟨onlyFirst, hasSettings, names, settings⟩ => ⟨onlyFirst, hasSettings, names, settings⟩,
      fun ⟨onlyFirst, hasSettings, names, settings⟩ => ⟨onlyFirst, hasSettings, names, settings⟩⟩

theorem toList_textOf (lines : List Line) :
    (textOf lines).toList = (lines.map (·.written.toList)).flatMap (· ++ ['\n']) := by
  simp [textOf, String.toList_join, List.flatMap_map]

theorem spelledBy_written (d : Document) : d.SpelledBy d.written := by
  refine ⟨d.sections.map fun s => (if s.isAnonymous then [] else [.header s.name]) ++
    s.settings.entries.map fun entry => .setting entry.1 entry.2, ?_, ?_⟩
  · rw [List.forall₂_map_right_iff, List.forall₂_same]
    exact fun s _ => ⟨s.settings.entries, .refl _, rfl⟩
  · rw [written, textOf, ← List.flatMap_def, List.map_flatMap, List.map_flatMap]
    refine congrArg String.join (List.flatMap_congr fun s _ => ?_)
    simp only [Section.writtenLines, Section.headerLines, Section.settingLines, List.map_append,
      List.map_map]
    cases s.isAnonymous <;> rfl

section Read

variable {lines : List Line} {source : Option Path}

theorem oneLine_of_writable {line : Line} (writable : line.Writable) :
    '\n' ∉ line.written.toList := by
  cases line with
  | empty => simp [Line.written]
  | header name =>
    rw [Line.written_header_toList]
    have name_oneLine := WritableName.oneLine writable
    simp [name_oneLine]
  | setting key value =>
    rw [Line.written_setting_toList]
    have solid := WritableSetting.solid writable
    have value_oneLine := WritableSetting.oneLine writable
    have key_oneLine : '\n' ∉ key.toList := fun member => absurd (solid _ member).1 (by decide)
    simp [key_oneLine, value_oneLine]

theorem linesOf_textOf (writable : ∀ line ∈ lines, line.Writable) :
    linesOf (textOf lines) = lines.map (·.written.toList) ++ [[]] := by
  have oneLine : ∀ text ∈ lines.map (·.written.toList), '\n' ∉ text := by
    intro text member
    obtain ⟨line, inLines, rfl⟩ := List.mem_map.mp member
    exact oneLine_of_writable (writable line inLines)
  have cut := Text.split_lines_append oneLine []
  rwa [List.append_nil, ← toList_textOf] at cut

theorem mapM_read_written (writable : ∀ line ∈ lines, line.Writable) :
    (lines.map (·.written.toList)).mapM Line.read = .ok lines := by
  induction lines with
  | nil => rfl
  | cons line rest ih =>
    obtain ⟨writable, rest_writable⟩ := List.forall_mem_cons.mp writable
    rw [List.map_cons, List.mapM_cons, Line.read_written writable, ih rest_writable]
    rfl

theorem parse_textOf (writable : ∀ line ∈ lines, line.Writable) :
    parse (textOf lines) source = .ok ⟨sectionsFrom source (.new "" source) lines⟩ := by
  refine parse_eq_ok.mpr ⟨lines ++ [.empty], ?_, ?_⟩
  · rw [linesOf_textOf writable, List.mapM_append, mapM_read_written writable]
    rfl
  · rw [sectionsFrom_append, sectionsFrom_eq]
    rfl

end Read

section Spelled

variable {source : Option Path}

theorem leadingSettings_append (entries : List (String × String)) (rest : List Line) :
    leadingSettings ((entries.map fun entry => .setting entry.1 entry.2) ++ rest) =
      entries ++ leadingSettings rest := by
  induction entries with
  | nil => rfl
  | cons entry entries ih => exact congrArg (entry :: ·) ih

theorem headedSections_append (entries : List (String × String)) (rest : List Line) :
    headedSections source ((entries.map fun entry => .setting entry.1 entry.2) ++ rest) =
      headedSections source rest := by
  induction entries with
  | nil => rfl
  | cons entry entries ih => exact ih

theorem headed_of_spelled (source : Option Path) {sections : List Section}
    {parts : List (List Line)} (spelled : List.Forall₂ Section.SpelledBy sections parts)
    (named : ∀ s ∈ sections, s.isAnonymous = false) :
    leadingSettings parts.flatten = [] ∧
      headedSections source parts.flatten = sections.map (·.relocate source) := by
  induction spelled with
  | nil => exact ⟨rfl, rfl⟩
  | @cons s part sections parts spelled _ ih =>
    obtain ⟨entries, same, rfl⟩ := spelled
    obtain ⟨s_named, named⟩ := List.forall_mem_cons.mp named
    obtain ⟨leading, headed⟩ := ih named
    have opened : (Section.new s.name source).setAll entries = s.relocate source :=
      Section.setAll_of_perm same rfl
    have kept : (s.relocate source).isAnonymous = false := s_named
    rw [List.flatten_cons, s_named, if_neg (by simp), List.append_assoc, List.singleton_append]
    refine ⟨rfl, ?_⟩
    rw [headedSections, sectionsFrom_leading, leadingSettings_append, leading, List.append_nil,
      opened, finish_of_named kept, headedSections_append, headed]
    rfl

theorem sectionsFrom_spelled {d : Document} (writable : d.Writable) {parts : List (List Line)}
    (spelled : List.Forall₂ Section.SpelledBy d.sections parts) :
    sectionsFrom source (.new "" source) parts.flatten = (d.relocate source).sections := by
  obtain ⟨sections⟩ := d
  cases spelled with
  | nil => rfl
  | @cons s part sections parts first others =>
    cases anonymous : s.isAnonymous with
    | false =>
      have named : ∀ t ∈ s :: sections, t.isAnonymous = false :=
        List.forall_mem_cons.mpr ⟨anonymous, writable.onlyFirst⟩
      obtain ⟨leading, headed⟩ := headed_of_spelled source (List.Forall₂.cons first others) named
      rw [sectionsFrom_leading, leading, Section.setAll_nil, finish_new, headed]
      rfl
    | true =>
      obtain ⟨leading, headed⟩ := headed_of_spelled source others writable.onlyFirst
      obtain ⟨entries, same, rfl⟩ := first
      have opened : (Section.new "" source).setAll entries = s.relocate source :=
        Section.setAll_of_perm same (by simpa [Section.isAnonymous] using anonymous)
      have kept : (s.relocate source).isEmpty = false :=
        writable.hasSettings s List.mem_cons_self anonymous
      rw [List.flatten_cons, anonymous, if_pos rfl, List.nil_append, sectionsFrom_leading,
        leadingSettings_append, leading, List.append_nil, opened, headedSections_append, headed]
      simp [finish, kept, relocate]

theorem writable_of_spelled {sections : List Section} {parts : List (List Line)}
    (spelled : List.Forall₂ Section.SpelledBy sections parts)
    (names : ∀ s ∈ sections, s.isAnonymous = false → WritableName s.name)
    (settings : ∀ s ∈ sections, ∀ entry ∈ s.settings.entries, WritableSetting entry.1 entry.2) :
    ∀ line ∈ parts.flatten, line.Writable := by
  induction spelled with
  | nil => simp
  | @cons s part sections parts spelled _ ih =>
    obtain ⟨entries, same, rfl⟩ := spelled
    obtain ⟨name, names⟩ := List.forall_mem_cons.mp names
    obtain ⟨setting, settings⟩ := List.forall_mem_cons.mp settings
    intro line member
    rw [List.flatten_cons, List.append_assoc] at member
    rcases List.mem_append.mp member with isHeader | member
    · cases anonymous : s.isAnonymous with
      | true => simp [anonymous] at isHeader
      | false =>
        have isName : line = .header s.name := by simpa [anonymous] using isHeader
        rw [isName]
        exact name anonymous
    · rcases List.mem_append.mp member with isSetting | inOthers
      · obtain ⟨entry, inEntries, rfl⟩ := List.mem_map.mp isSetting
        exact setting entry (same.mem_iff.mp inEntries)
      · exact ih names settings line inOthers

/-- Reading undoes writing. -/
theorem parse_spelled (source : Option Path) {d : Document} (writable : d.Writable) {text : String}
    (spelled : d.SpelledBy text) : parse text source = .ok (d.relocate source) := by
  obtain ⟨parts, spelled, rfl⟩ := spelled
  rw [parse_textOf (writable_of_spelled spelled writable.names writable.settings),
    sectionsFrom_spelled writable spelled]

end Spelled

section Parsed

variable {lines : List Line} {source : Option Path}

theorem sectionsFrom_keeps (holds : Section → Prop)
    (opens : ∀ name, WritableName name → holds (.new name source))
    (sets : ∀ s key value, holds s → WritableSetting key value → holds (s.set key value))
    (writable : ∀ line ∈ lines, line.Writable) {current : Section} (start : holds current) :
    ∀ s ∈ sectionsFrom source current lines, holds s := by
  have finished : ∀ t, holds t → ∀ s ∈ finish t, holds s := by
    intro t kept s member
    rw [finish] at member
    split at member
    · cases member
    · exact List.mem_singleton.mp member ▸ kept
  induction lines generalizing current with
  | nil => exact finished current start
  | cons line rest ih =>
    obtain ⟨line_writable, rest_writable⟩ := List.forall_mem_cons.mp writable
    cases line with
    | empty => exact ih rest_writable start
    | setting key value => exact ih rest_writable (sets current key value start line_writable)
    | header name =>
      intro s member
      rcases List.mem_append.mp member with closed | later
      · exact finished current start s closed
      · exact ih rest_writable (opens name line_writable) s later

structure FromLines (source : Option Path) (s : Section) : Prop where
  path : s.path = source
  name : s.isAnonymous = false → WritableName s.name
  settings : ∀ entry ∈ s.settings.entries, WritableSetting entry.1 entry.2

theorem fromLines_new {name : String}
    (writable : (Section.new name source).isAnonymous = false → WritableName name) :
    FromLines source (.new name source) :=
  ⟨rfl, writable, by simp [Section.new, Table.empty]⟩

theorem FromLines.set {s : Section} {key value : String} (made : FromLines source s)
    (writable : WritableSetting key value) : FromLines source (s.set key value) := by
  refine ⟨made.path, made.name, ?_⟩
  rintro ⟨other, text⟩ member
  have found := (Table.mem_entries_iff _ _ _).mp member
  rw [Section.get?_set] at found
  split at found
  case isTrue same =>
    cases found
    exact same ▸ writable
  case isFalse => exact made.settings _ ((Table.mem_entries_iff _ _ _).mpr found)

theorem writable_sectionsFrom (source : Option Path) (writable : ∀ line ∈ lines, line.Writable) :
    (⟨sectionsFrom source (.new "" source) lines⟩ : Document).Writable ∧
      ∀ s ∈ sectionsFrom source (.new "" source) lines, s.path = source := by
  have made : ∀ s ∈ sectionsFrom source (.new "" source) lines, FromLines source s :=
    sectionsFrom_keeps (FromLines source) (fun _ name => fromLines_new fun _ => name)
      (fun _ _ _ kept setting => kept.set setting) writable
      (fromLines_new fun named => by cases named)
  have headed : Headed lines := fun name member => WritableName.nonempty (writable _ member)
  have others := named_headedSections source headed
  refine ⟨⟨?_, ?_, fun s member => (made s member).name, fun s member => (made s member).settings⟩,
    fun s member => (made s member).path⟩
  · intro s member
    simp only [sectionsFrom_leading, finish] at member
    split at member
    · exact others s (List.mem_of_mem_tail member)
    · exact others s member
  · intro s member anonymous
    simp only [sectionsFrom_leading] at member
    rcases List.mem_append.mp member with first | later
    · rw [finish] at first
      split at first
      case isTrue => cases first
      case isFalse kept =>
        rw [List.mem_singleton.mp first] at anonymous ⊢
        simpa [anonymous] using kept
    · rw [others s later] at anonymous
      cases anonymous

theorem relocate_eq_self {d : Document} (same : ∀ s ∈ d.sections, s.path = source) :
    d.relocate source = d := by
  obtain ⟨sections⟩ := d
  refine congrArg Document.mk ((List.map_congr_left fun s member => ?_).trans (List.map_id _))
  cases s
  cases same _ member
  rfl

end Parsed

/-- A document that can be written is what reading makes of its text, with whatever order of the
settings in a section. Whatever is read from a text can be written, so that reading, writing and
reading again gives the same sections. -/
theorem parse_written (source : Option Path) :
    (∀ d : Document, d.Writable →
      parse d.written source = .ok (d.relocate source) ∧
      ∀ text, d.SpelledBy text → parse text source = .ok (d.relocate source)) ∧
    ∀ text d, parse text source = .ok d →
      d.Writable ∧ (∀ s ∈ d.sections, s.path = source) ∧ parse d.written source = .ok d := by
  constructor
  · intro d writable
    exact ⟨parse_spelled source writable d.spelledBy_written,
      fun text => parse_spelled source writable⟩
  · intro text d reads
    obtain ⟨lines, read, rfl⟩ := parse_eq_ok.mp reads
    have writable : ∀ line ∈ lines, line.Writable := by
      intro line member
      obtain ⟨shown, inText, read⟩ := Outcome.mem_of_mapM read member
      exact Line.writable_of_read (oneLine_of_mem_linesOf inText) read
    obtain ⟨can, paths⟩ := writable_sectionsFrom source writable
    have again := parse_spelled source can (spelledBy_written _)
    rw [relocate_eq_self paths] at again
    exact ⟨can, paths, again⟩

end Document

namespace Sample

def awkward : Document :=
  ⟨[((Section.new "" none).set "path" "\"a # b\" c").set "empty" "",
    (Section.new "a] [b" none).set "k[" "1 = 2", Section.new "a] [b" none]⟩

theorem awkward_round_trip :
    awkward.Writable ∧
    awkward.written = "empty = \npath = \"a # b\" c\n[a] [b]\nk[ = 1 = 2\n[a] [b]\n" ∧
    Document.parse awkward.written none = .ok awkward ∧
    ∃ d, Document.parse "[ s ] ; named\n\tk=v # set\n" none = .ok d ∧ d.Writable ∧
      Document.parse d.written none = .ok d := by
  obtain ⟨written, read⟩ := Document.parse_written none
  have writable : awkward.Writable := by decide +kernel
  have reads : (Document.parse "[ s ] ; named\n\tk=v # set\n" none).isOk = true := by
    decide +kernel
  obtain ⟨d, reads⟩ := Outcome.isOk_iff.mp reads
  obtain ⟨can, _, again⟩ := read _ d reads
  exact ⟨writable, by decide +kernel, (written awkward writable).1, d, reads, can, again⟩

end Sample

end DetectorGeometry
