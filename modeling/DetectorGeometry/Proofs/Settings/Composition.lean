import DetectorGeometry.Proofs.Settings.Sections
import DetectorGeometry.Proofs.Settings.WrittenLine
import DetectorGeometry.Proofs.Text.Lines
import DetectorGeometry.Settings.Written

/-!
Texts one after another. A text that ends with its last line can be read on its own: the rest goes
on in the section that it leaves open, and the number of a bad line counts on
(`Document.parse_append`). Lines do not see each other, so that a text is bad only for a line that
is bad by itself.
-/
namespace DetectorGeometry

namespace Document

variable {source : Option Path}

section Reading

variable {number : Nat} {texts : List (List Char)}

theorem readLines_cons_ok {text : List Char} {line : Line} (reads : Line.read text = .ok line) :
    readLines source number (text :: texts) =
      (readLines source (number + 1) texts).map (line :: ·) := by
  rw [readLines, reads]
  cases readLines source (number + 1) texts <;> rfl

theorem readLines_cons_error {text : List Char} {fault : LineFault}
    (fails : Line.read text = .error fault) :
    readLines source number (text :: texts) = .error (.malformed source number fault) := by
  rw [readLines, fails]

theorem readLines_eq_ok {lines : List Line} :
    readLines source number texts = .ok lines ↔ texts.mapM Line.read = .ok lines := by
  induction texts generalizing number lines with
  | nil => simp [readLines, pure, Except.pure]
  | cons text texts ih =>
    rw [List.mapM_cons]
    cases reads : Line.read text with
    | error fault =>
      rw [readLines_cons_error reads]
      constructor <;> intro impossible <;> cases impossible
    | ok line =>
      rw [readLines_cons_ok reads, Outcome.map_eq_ok, Outcome.bind_eq_ok]
      constructor
      · rintro ⟨others, rest, rfl⟩
        exact ⟨line, rfl, Outcome.bind_eq_ok.mpr ⟨others, ih.mp rest, rfl⟩⟩
      · rintro ⟨_, same, done⟩
        cases same
        obtain ⟨others, rest, same⟩ := Outcome.bind_eq_ok.mp done
        exact ⟨others, ih.mpr rest, Except.ok.inj same⟩

/-- Reading fails at the first line that is bad, with its number. -/
theorem readLines_eq_error {e : SettingsError} :
    readLines source number texts = .error e ↔
      ∃ before text after fault, texts = before ++ text :: after ∧
        (∀ other ∈ before, ∃ line, Line.read other = .ok line) ∧
        Line.read text = .error fault ∧ e = .malformed source (number + before.length) fault := by
  induction texts generalizing number with
  | nil => simp [readLines]
  | cons text texts ih =>
    cases reads : Line.read text with
    | error fault =>
      rw [readLines_cons_error reads]
      constructor
      · intro failed
        exact ⟨[], text, texts, fault, rfl, by simp, reads, (Except.error.inj failed).symm⟩
      · rintro ⟨before, other, after, fault', parts, fine, fails, rfl⟩
        cases before with
        | nil =>
          obtain ⟨rfl, rfl⟩ := List.cons.inj parts
          cases reads.symm.trans fails
          rfl
        | cons first before =>
          obtain ⟨rfl, _⟩ := List.cons.inj parts
          obtain ⟨line, fine⟩ := fine text List.mem_cons_self
          cases reads.symm.trans fine
    | ok line =>
      rw [readLines_cons_ok reads, Outcome.map_eq_error, ih]
      constructor
      · rintro ⟨before, bad, after, fault, rfl, fine, fails, rfl⟩
        refine ⟨text :: before, bad, after, fault, rfl, ?_, fails, ?_⟩
        · intro other member
          rcases List.mem_cons.mp member with rfl | member
          · exact ⟨line, reads⟩
          · exact fine other member
        · rw [List.length_cons, Nat.add_right_comm, Nat.add_assoc]
      · rintro ⟨before, bad, after, fault, parts, fine, fails, rfl⟩
        cases before with
        | nil =>
          obtain ⟨rfl, rfl⟩ := List.cons.inj parts
          cases reads.symm.trans fails
        | cons first before =>
          obtain ⟨rfl, rfl⟩ := List.cons.inj parts
          refine ⟨before, bad, after, fault, rfl,
            fun other member => fine other (List.mem_cons_of_mem _ member), fails, ?_⟩
          rw [List.length_cons, Nat.add_right_comm, Nat.add_assoc]

end Reading

/-- The lines of a text, without their line feeds. Behind the last line feed there is one more line,
which may be empty. -/
def linesOf (text : String) : List (List Char) := Text.split '\n' text.toList

theorem parse_eq_ok {text : String} {d : Document} :
    parse text source = .ok d ↔
      ∃ lines, (linesOf text).mapM Line.read = .ok lines ∧
        d = ⟨sectionsFrom source (.new "" source) lines⟩ := by
  simp only [parse, Outcome.bind_eq_ok, readLines_eq_ok, linesOf]
  refine exists_congr fun lines => and_congr_right fun _ => ?_
  exact ⟨fun h => (Except.ok.inj h).symm, fun h => congrArg _ h.symm⟩

theorem parse_eq_error {text : String} {e : SettingsError} :
    parse text source = .error e ↔
      ∃ before line after fault, linesOf text = before ++ line :: after ∧
        (∀ other ∈ before, ∃ said, Line.read other = .ok said) ∧
        Line.read line = .error fault ∧ e = .malformed source (before.length + 1) fault := by
  have fails : parse text source = .error e ↔ readLines source 1 (linesOf text) = .error e := by
    rw [parse, Outcome.bind_eq_error, linesOf]
    constructor
    · rintro (failed | ⟨_, _, impossible⟩)
      · exact failed
      · cases impossible
    · exact .inl
  rw [fails, readLines_eq_error]
  simp only [Nat.add_comm 1]

def lastSection (source : Option Path) (d : Document) : Section :=
  d.sections.getLast?.getD (.new "" source)

/-- A document that goes on with the text of another: settings in front of its first header belong
to the section that is open, where they replace those of equal keys, and the sections with names
follow. -/
def continuedBy (source : Option Path) (d other : Document) : Document :=
  ⟨d.sections.dropLast ++ finish ((d.lastSection source).amend other.header) ++ other.named⟩

section Parts

variable {lines : List Line}

theorem headed_of_reads {texts : List (List Char)} (oneLine : ∀ text ∈ texts, '\n' ∉ text)
    (reads : texts.mapM Line.read = .ok lines) : Headed lines := by
  intro name member
  obtain ⟨text, inTexts, read⟩ := Outcome.mem_of_mapM reads member
  have writable := Line.writable_of_read (oneLine text inTexts) read
  exact writable.nonempty

theorem lastSection_eq (headed : Headed lines) {d : Document}
    (made : d = ⟨sectionsFrom source (.new "" source) lines⟩) :
    d.lastSection source = openSection source (.new "" source) lines ∧
      d.sections.dropLast = closedSections source (.new "" source) lines := by
  subst made
  simp only [lastSection, sectionsFrom_eq]
  cases anonymous : (openSection source (.new "" source) lines).isAnonymous with
  | false => simp [finish_of_named anonymous]
  | true =>
    obtain ⟨noneClosed, leading⟩ := openSection_anonymous headed anonymous
    rw [noneClosed, leading]
    cases empty : ((Section.new "" source).setAll (leadingSettings lines)).isEmpty with
    | false => simp [finish, empty]
    | true =>
      rw [Section.eq_new_of_isEmpty empty, finish_new]
      exact ⟨rfl, rfl⟩

theorem anonymous_eq (headed : Headed lines) {d : Document}
    (made : d = ⟨sectionsFrom source (.new "" source) lines⟩) :
    d.anonymous = finish ((Section.new "" source).setAll (leadingSettings lines)) ∧
      d.named = headedSections source lines := by
  subst made
  simp only [anonymous, named, sectionsFrom_leading, List.filter_append]
  have others := named_headedSections source headed
  have first : ∀ s ∈ finish ((Section.new "" source).setAll (leadingSettings lines)),
      s.isAnonymous = true := by
    intro s member
    rw [finish] at member
    split at member
    · cases member
    · rw [List.mem_singleton.mp member, Section.isAnonymous_setAll]
      rfl
  constructor
  · rw [List.filter_eq_self.mpr first, List.filter_eq_nil_iff.mpr, List.append_nil]
    intro s member
    simp [others s member]
  · rw [List.filter_eq_nil_iff.mpr, List.filter_eq_self.mpr, List.nil_append]
    · intro s member
      simp [others s member]
    · intro s member
      simp [first s member]

theorem header_settings (headed : Headed lines) {d : Document}
    (made : d = ⟨sectionsFrom source (.new "" source) lines⟩) :
    d.header.settings = ((Section.new "" source).setAll (leadingSettings lines)).settings := by
  rw [header, (anonymous_eq headed made).1]
  cases empty : ((Section.new "" source).setAll (leadingSettings lines)).isEmpty with
  | false => simp [finish, empty]
  | true =>
    rw [Section.eq_new_of_isEmpty empty, finish_new]
    rfl

/-- Lines go on where other lines end. -/
theorem continuedBy_eq {others : List Line} (headed : Headed lines) (headed' : Headed others)
    {d e : Document} (made : d = ⟨sectionsFrom source (.new "" source) lines⟩)
    (made' : e = ⟨sectionsFrom source (.new "" source) others⟩) :
    d.continuedBy source e = ⟨sectionsFrom source (.new "" source) (lines ++ others)⟩ := by
  obtain ⟨last, closed⟩ := lastSection_eq headed made
  have amended : (d.lastSection source).amend e.header =
      (d.lastSection source).setAll (leadingSettings others) := by
    rw [← Section.amend_setAll (.new "" source) rfl, Section.amend, header_settings headed' made',
      Section.amend]
  rw [continuedBy, amended, last, closed, (anonymous_eq headed' made').2, sectionsFrom_append,
    sectionsFrom_leading, List.append_assoc]

end Parts

theorem oneLine_of_mem_linesOf {text : String} {line : List Char} (member : line ∈ linesOf text) :
    '\n' ∉ line :=
  Text.notMem_of_mem_split member

/-- A text that is empty or ends with a line feed has as many lines as line feeds, and these are the
first lines of every text that starts with it. -/
theorem exists_whole_lines {a : String} (whole : a = "" ∨ a.toList.getLast? = some '\n') :
    ∃ lines, lines.length = a.toList.count '\n' ∧
      ∀ b, linesOf (a ++ b) = lines ++ linesOf b := by
  rcases whole with rfl | ends
  · exact ⟨[], by simp, fun b => by simp⟩
  · obtain ⟨front, parts⟩ := List.getLast?_eq_some_iff.mp ends
    refine ⟨Text.split '\n' front, ?_, fun b => ?_⟩
    · rw [Text.length_split, parts, List.count_append]
      rfl
    · rw [linesOf, String.toList_append, parts, List.append_assoc, List.singleton_append,
        Text.split_append_mark]
      rfl

theorem linesOf_empty : linesOf "" = [[]] := rfl

section Whole

variable {a b : String} {lines : List (List Char)}

theorem parse_whole_eq_ok (split : ∀ b, linesOf (a ++ b) = lines ++ linesOf b) {d : Document}
    (reads : parse a source = .ok d) :
    ∃ said, lines.mapM Line.read = .ok said ∧ d = ⟨sectionsFrom source (.new "" source) said⟩ := by
  have own := split ""
  rw [String.append_empty, linesOf_empty] at own
  obtain ⟨all, read, rfl⟩ := parse_eq_ok.mp reads
  rw [own, List.mapM_append] at read
  obtain ⟨said, first, rest⟩ := Outcome.bind_eq_ok.mp read
  cases rest
  refine ⟨said, first, ?_⟩
  rw [sectionsFrom_append, sectionsFrom_eq _ said]
  rfl

theorem parse_whole_eq_error (split : ∀ b, linesOf (a ++ b) = lines ++ linesOf b)
    {e : SettingsError} (fails : parse a source = .error e) :
    parse (a ++ b) source = .error e := by
  have own := split ""
  rw [String.append_empty, linesOf_empty] at own
  obtain ⟨before, line, after, fault, parts, fine, bad, rfl⟩ := parse_eq_error.mp fails
  have inFront : ∃ rest, lines = before ++ line :: rest := by
    rw [own] at parts
    rcases List.eq_nil_or_concat after with rfl | ⟨rest, last, rfl⟩
    · have same := (List.append_inj' parts rfl).2
      cases same
      cases bad
    · refine ⟨rest, ?_⟩
      rw [List.concat_eq_append, ← List.cons_append, ← List.append_assoc] at parts
      exact (List.append_inj' parts rfl).1
  obtain ⟨rest, rfl⟩ := inFront
  refine parse_eq_error.mpr ⟨before, line, rest ++ linesOf b, fault, ?_, fine, bad, rfl⟩
  rw [split, List.append_assoc, List.cons_append]

end Whole

theorem parse_line_eq_error {line : List Char} (oneLine : '\n' ∉ line) {e : SettingsError} :
    parse (String.ofList line) source = .error e ↔
      ∃ fault, Line.read line = .error fault ∧ e = .malformed source 1 fault := by
  have own : linesOf (String.ofList line) = [line] := by
    rw [linesOf, String.toList_ofList, Text.split_of_notMem oneLine]
  rw [parse_eq_error, own]
  constructor
  · rintro ⟨before, _, after, fault, parts, _, bad, rfl⟩
    cases before with
    | nil =>
      cases parts
      exact ⟨fault, bad, rfl⟩
    | cons _ before => simp at parts
  · rintro ⟨fault, bad, rfl⟩
    exact ⟨[], line, [], fault, rfl, by simp, bad, rfl⟩

theorem parse_line_ok_iff {line : List Char} (oneLine : '\n' ∉ line) :
    (∃ d, parse (String.ofList line) source = .ok d) ↔ ∃ said, Line.read line = .ok said := by
  simp only [← Outcome.fault?_eq_none]
  rw [Option.eq_none_iff_forall_ne_some, Option.eq_none_iff_forall_ne_some]
  simp only [ne_eq, Outcome.fault?_eq_some, parse_line_eq_error oneLine]
  constructor
  · intro fine fault bad
    exact fine _ ⟨fault, bad, rfl⟩
  · rintro fine e ⟨fault, bad, rfl⟩
    exact fine fault bad

theorem parse_eq_error_iff_line {text : String} {e : SettingsError} :
    parse text source = .error e ↔
      ∃ before line after fault, linesOf text = before ++ line :: after ∧
        (∀ other ∈ before, ∃ d, parse (String.ofList other) source = .ok d) ∧
        parse (String.ofList line) source = .error (.malformed source 1 fault) ∧
        e = .malformed source (before.length + 1) fault := by
  rw [parse_eq_error]
  refine exists_congr fun before => exists_congr fun line => exists_congr fun after =>
    exists_congr fun fault => and_congr_right fun parts => ?_
  have oneLine : ∀ other ∈ before ++ line :: after, '\n' ∉ other := fun other member =>
    oneLine_of_mem_linesOf (parts ▸ member)
  refine and_congr (forall₂_congr fun other member => ?_) (and_congr_left fun _ => ?_)
  · exact (parse_line_ok_iff (oneLine other (List.mem_append_left _ member))).symm
  · rw [parse_line_eq_error (oneLine line (by simp))]
    constructor
    · intro bad
      exact ⟨fault, bad, rfl⟩
    · rintro ⟨_, bad, same⟩
      cases same
      exact bad

/-- A text that is empty or ends with a line feed can be cut off in front of another one: the rest
goes on in the section that it leaves open, and the numbers of bad lines count on. -/
theorem parse_append (a b : String) (source : Option Path)
    (whole : a = "" ∨ a.toList.getLast? = some '\n') :
    (∀ e, parse a source = .error e → parse (a ++ b) source = .error e) ∧
    (∀ d e, parse a source = .ok d → parse b source = .error e →
      ∃ line fault, e = .malformed source line fault ∧
        parse (a ++ b) source = .error (.malformed source (a.toList.count '\n' + line) fault)) ∧
    (∀ d d', parse a source = .ok d → parse b source = .ok d' →
      parse (a ++ b) source = .ok (d.continuedBy source d')) ∧
    ∀ text : String,
      ((∃ e, parse text source = .error e) ↔
        ∃ line ∈ linesOf text, ∃ e, parse (String.ofList line) source = .error e) ∧
      ∀ e, parse text source = .error e ↔
        ∃ before line after fault, linesOf text = before ++ line :: after ∧
          (∀ other ∈ before, ∃ d, parse (String.ofList other) source = .ok d) ∧
          parse (String.ofList line) source = .error (.malformed source 1 fault) ∧
          e = .malformed source (before.length + 1) fault := by
  obtain ⟨lines, count, split⟩ := exists_whole_lines whole
  refine ⟨fun e => parse_whole_eq_error split, ?_, ?_, fun text => ⟨?_, fun e =>
    parse_eq_error_iff_line⟩⟩
  · intro d e reads fails
    obtain ⟨said, read, _⟩ := parse_whole_eq_ok split reads
    obtain ⟨before, line, after, fault, parts, fine, bad, rfl⟩ := parse_eq_error.mp fails
    refine ⟨before.length + 1, fault, rfl, parse_eq_error.mpr
      ⟨lines ++ before, line, after, fault, ?_, ?_, bad, ?_⟩⟩
    · rw [split, parts, List.append_assoc]
    · intro other member
      rcases List.mem_append.mp member with inFirst | inSecond
      · exact Outcome.mapM_ok_iff.mp ⟨said, read⟩ other inFirst
      · exact fine other inSecond
    · rw [List.length_append, count, Nat.add_assoc]
  · intro d d' reads reads'
    obtain ⟨said, read, made⟩ := parse_whole_eq_ok split reads
    obtain ⟨said', read', made'⟩ := parse_eq_ok.mp reads'
    have inWhole : ∀ line ∈ lines, line ∈ linesOf (a ++ b) := fun line member =>
      split b ▸ List.mem_append_left _ member
    have headed : Headed said := headed_of_reads
      (fun line member => oneLine_of_mem_linesOf (inWhole line member)) read
    have headed' : Headed said' := headed_of_reads (fun _ => oneLine_of_mem_linesOf) read'
    refine parse_eq_ok.mpr ⟨said ++ said', ?_, continuedBy_eq headed headed' made made'⟩
    rw [split, List.mapM_append, read, read']
    rfl
  · constructor
    · rintro ⟨e, fails⟩
      obtain ⟨before, line, after, fault, parts, _, bad, _⟩ := parse_eq_error_iff_line.mp fails
      exact ⟨line, by simp [parts], _, bad⟩
    · rintro ⟨line, member, e, bad⟩
      cases reads : parse text source with
      | error e => exact ⟨e, rfl⟩
      | ok d =>
        obtain ⟨said, read, _⟩ := parse_eq_ok.mp reads
        have fine := Outcome.mapM_ok_iff.mp ⟨said, read⟩ line member
        obtain ⟨d, good⟩ := (parse_line_ok_iff (oneLine_of_mem_linesOf member)).mpr fine
        cases bad.symm.trans good

end Document

namespace Sample

def openedText : String := "x = 1 # one\n\n[s]\ny = 2\n"

def furtherText : String := "y = 3\nz = 4\n[t]\n"

def spoiledText : String := "; fine\nno equals sign\n"

/-- The second text changes a setting of the section that the first leaves open; a bad second line
behind four lines is line six. -/
theorem opened_goes_on :
    openedText.toList.getLast? = some '\n' ∧
    (∃ d d', Document.parse openedText none = .ok d ∧ Document.parse furtherText none = .ok d' ∧
      Document.parse (openedText ++ furtherText) none = .ok (d.continuedBy none d') ∧
      (d.continuedBy none d').sections.map Section.writtenLines =
        [["x = 1"], ["[s]", "y = 3", "z = 4"], ["[t]"]]) ∧
    Document.parse (openedText ++ spoiledText) none =
      .error (.malformed none 6 .noEqualsSign) := by
  have ends : openedText.toList.getLast? = some '\n' := by decide +kernel
  have opens : (Document.parse openedText none).isOk = true := by decide +kernel
  have continues : (Document.parse furtherText none).isOk = true := by decide +kernel
  obtain ⟨d, opens⟩ := Outcome.isOk_iff.mp opens
  obtain ⟨d', continues⟩ := Outcome.isOk_iff.mp continues
  refine ⟨ends, ⟨d, d', opens, continues, ?_⟩, ?_⟩
  · obtain ⟨_, _, goesOn, _⟩ := Document.parse_append openedText furtherText none (.inr ends)
    have whole := goesOn d d' opens continues
    have shown : (Document.parse (openedText ++ furtherText) none).toOption.map
        (fun d => d.sections.map Section.writtenLines) =
        some [["x = 1"], ["[s]", "y = 3", "z = 4"], ["[t]"]] := by
      decide +kernel
    rw [whole] at shown
    exact ⟨whole, Option.some.inj shown⟩
  · obtain ⟨_, counted, _⟩ := Document.parse_append openedText spoiledText none (.inr ends)
    have spoiled : Document.parse spoiledText none = .error (.malformed none 2 .noEqualsSign) :=
      Outcome.fault?_eq_some.mp (by decide +kernel)
    obtain ⟨line, fault, same, reported⟩ := counted d _ opens spoiled
    cases same
    exact reported

end Sample

end DetectorGeometry
