import DetectorGeometry.Proofs.Settings.Composition
import DetectorGeometry.Proofs.Settings.LineEdits

/-!
Layout and comments of a text. Whatever edits lead from one text to another, as long as each only
touches up a line (`Line.Retouched`), ends one with a carriage return or puts in a line that says
nothing, the sections are the same; and a bad text stays bad for the same line, whose number counts
the lines that came in above it (`Document.layout_invisible`).
-/
namespace DetectorGeometry

namespace Text

variable {mark : Char}

theorem exists_split_append {more : List Char} (absent : mark ∉ more) (cs : List Char) :
    ∃ front last, split mark cs = front ++ [last] ∧
      split mark (cs ++ more) = front ++ [last ++ more] := by
  induction cs with
  | nil => exact ⟨[], [], rfl, split_of_notMem absent⟩
  | cons c rest ih =>
    obtain ⟨front, last, pieces, pieces'⟩ := ih
    rw [List.cons_append, split, split, pieces, pieces']
    split
    case isTrue => exact ⟨[] :: front, last, rfl, rfl⟩
    case isFalse =>
      cases front with
      | nil => exact ⟨[], c :: last, rfl, rfl⟩
      | cons piece others => exact ⟨(c :: piece) :: others, last, rfl, rfl⟩

end Text

namespace Document

variable {source : Option Path}

/-- Edits of a text one after another; of each line that they put in, the number of lines above it
at that time. -/
inductive Relaid : String → List Nat → String → Prop where
  | same (text : String) : Relaid text [] text
  | retouched (text text' edited : String) (places : List Nat) (before : List (List Char))
      (line line' : List Char) (after : List (List Char))
      (parts : linesOf text = before ++ line :: after)
      (parts' : linesOf text' = before ++ line' :: after) (edit : Line.Retouched line line')
      (further : Relaid text' places edited) : Relaid text places edited
  | returned (before after edited : String) (places : List Nat)
      (further : Relaid (before ++ "\r\n" ++ after) places edited) :
      Relaid (before ++ "\n" ++ after) places edited
  | inserted (text text' edited : String) (places : List Nat) (before : List (List Char))
      (line : List Char) (after : List (List Char)) (parts : linesOf text = before ++ after)
      (parts' : linesOf text' = before ++ line :: after) (ignored : Line.Ignored line)
      (further : Relaid text' places edited) : Relaid text (before.length :: places) edited

/-- How many of the lines that are put in at some places come to stand above a line. The number of
the line grows with each of them. -/
def insertedAbove (number : Nat) : List Nat → Nat
  | [] => 0
  | place :: rest =>
    if place < number then insertedAbove (number + 1) rest + 1 else insertedAbove number rest

section Retouched

variable {text text' : String}

theorem readLines_congr {lines lines' : List (List Char)} {number : Nat}
    (same : lines.map Line.read = lines'.map Line.read) :
    readLines source number lines = readLines source number lines' := by
  induction lines generalizing lines' number with
  | nil =>
    cases lines' with
    | nil => rfl
    | cons _ _ => cases same
  | cons line lines ih =>
    cases lines' with
    | nil => cases same
    | cons line' lines' =>
      obtain ⟨first, rest⟩ := List.cons.inj same
      rw [readLines, readLines, first, ih rest]

theorem parse_retouched {before after : List (List Char)} {line line' : List Char}
    (parts : linesOf text = before ++ line :: after)
    (parts' : linesOf text' = before ++ line' :: after) (edit : Line.Retouched line line') :
    parse text' source = parse text source := by
  have same : (linesOf text').map Line.read = (linesOf text).map Line.read := by
    rw [parts, parts', List.map_append, List.map_append, List.map_cons, List.map_cons,
      edit.read_eq]
  exact congrArg (· >>= _) (readLines_congr same)

theorem linesOf_feed (before after : String) :
    linesOf (before ++ "\n" ++ after) = linesOf before ++ linesOf after := by
  rw [linesOf, String.toList_append, String.toList_append, List.append_assoc]
  exact Text.split_append_mark _ _

theorem parse_returned (before after : String) :
    parse (before ++ "\r\n" ++ after) source = parse (before ++ "\n" ++ after) source := by
  obtain ⟨front, last, pieces, pieces'⟩ :=
    Text.exists_split_append (show '\n' ∉ ['\r'] by decide) before.toList
  have parts : linesOf (before ++ "\n" ++ after) = front ++ last :: linesOf after := by
    rw [linesOf_feed, linesOf, pieces, List.append_assoc, List.singleton_append]
  have parts' : linesOf (before ++ "\r\n" ++ after) =
      front ++ (last ++ ['\r']) :: linesOf after := by
    have feed : before ++ "\r\n" = before ++ "\r" ++ "\n" := by
      rw [String.append_assoc]
      rfl
    rw [feed, linesOf_feed, linesOf, String.toList_append]
    exact (congrArg (· ++ linesOf after) pieces').trans (List.append_assoc ..)
  have blank : Text.Blanks ['\r'] := by
    intro c member
    rw [List.mem_singleton.mp member]
    decide
  have ends := Line.Retouched.stop last ['\r'] [] blank Text.blanks_nil
  rw [List.append_nil, List.append_nil] at ends
  exact parse_retouched parts parts' ends

end Retouched

section Inserted

variable {text text' : String} {before after : List (List Char)} {line : List Char}

theorem sectionsFrom_empty (current : Section) (before after : List Line) :
    sectionsFrom source current (before ++ .empty :: after) =
      sectionsFrom source current (before ++ after) := by
  rw [sectionsFrom_append, sectionsFrom_append, sectionsFrom]

theorem parse_inserted_ok (parts : linesOf text = before ++ after)
    (parts' : linesOf text' = before ++ line :: after) (ignored : Line.Ignored line)
    {d : Document} (reads : parse text source = .ok d) : parse text' source = .ok d := by
  obtain ⟨lines, read, rfl⟩ := parse_eq_ok.mp reads
  rw [parts, List.mapM_append] at read
  obtain ⟨front, first, read⟩ := Outcome.bind_eq_ok.mp read
  obtain ⟨back, rest, read⟩ := Outcome.bind_eq_ok.mp read
  cases read
  refine parse_eq_ok.mpr ⟨front ++ .empty :: back, ?_, ?_⟩
  · rw [parts', List.mapM_append, List.mapM_cons, first, rest, Line.read_of_ignored ignored]
    rfl
  · rw [sectionsFrom_empty]

theorem behind_or_before {bad : List Char} {above below : List (List Char)}
    (parts : before ++ after = above ++ bad :: below) :
    (∃ middle, above = before ++ middle ∧ after = middle ++ bad :: below) ∨
      ∃ middle, before = above ++ bad :: middle ∧ below = middle ++ after := by
  rcases List.append_eq_append_iff.mp parts with behind | ⟨middle, front, back⟩
  · exact .inl behind
  · cases middle with
    | nil => exact .inl ⟨[], by simpa using front.symm, back.symm⟩
    | cons _ middle =>
      cases back
      exact .inr ⟨middle, front, rfl⟩

/-- The number of the bad line grows by one if the line that comes in stands above it. -/
theorem parse_inserted_error (parts : linesOf text = before ++ after)
    (parts' : linesOf text' = before ++ line :: after) (ignored : Line.Ignored line)
    {number : Nat} {fault : LineFault}
    (fails : parse text source = .error (.malformed source number fault)) :
    parse text' source = .error
      (.malformed source (if before.length < number then number + 1 else number) fault) := by
  obtain ⟨above, bad, below, fault, shape, fine, read, same⟩ := parse_eq_error.mp fails
  cases same
  rw [parts] at shape
  refine parse_eq_error.mpr ?_
  rcases behind_or_before shape with ⟨middle, rfl, rfl⟩ | ⟨middle, rfl, rfl⟩
  · refine ⟨before ++ line :: middle, bad, below, fault, by simp [parts'], ?_, read, ?_⟩
    · intro other member
      rcases List.mem_append.mp member with inFront | member
      · exact fine other (List.mem_append_left _ inFront)
      · rcases List.mem_cons.mp member with rfl | inMiddle
        · exact ⟨.empty, Line.read_of_ignored ignored⟩
        · exact fine other (List.mem_append_right _ inMiddle)
    · have counted : before.length < (before ++ middle).length + 1 := by
        rw [List.length_append]
        omega
      rw [if_pos counted]
      simp [Nat.add_assoc]
  · refine ⟨above, bad, middle ++ line :: after, fault, by simp [parts'], fine, read, ?_⟩
    rw [if_neg (by simp)]

end Inserted

theorem malformed_of_parse {text : String} {e : SettingsError}
    (fails : parse text source = .error e) : ∃ number fault, e = .malformed source number fault := by
  obtain ⟨above, _, _, fault, _, _, _, rfl⟩ := parse_eq_error.mp fails
  exact ⟨_, fault, rfl⟩

theorem Relaid.parse_error {text edited : String} {places : List Nat}
    (edits : Relaid text places edited) {number : Nat} {fault : LineFault}
    (fails : parse text source = .error (.malformed source number fault)) :
    parse edited source =
      .error (.malformed source (number + insertedAbove number places) fault) := by
  induction edits generalizing number with
  | same text => exact fails
  | retouched text text' edited places before line line' after parts parts' edit further ih =>
    exact ih ((parse_retouched parts parts' edit).trans fails)
  | returned before after edited places further ih =>
    exact ih ((parse_returned before after).trans fails)
  | inserted text text' edited places before line after parts parts' ignored further ih =>
    have reported := ih (parse_inserted_error parts parts' ignored fails)
    rw [insertedAbove]
    split at reported
    case isTrue above =>
      have counted : number + (insertedAbove (number + 1) places + 1) =
          number + 1 + insertedAbove (number + 1) places := by omega
      rw [if_pos above, counted]
      exact reported
    case isFalse below =>
      rw [if_neg below]
      exact reported

theorem Relaid.parse_ok {text edited : String} {places : List Nat}
    (edits : Relaid text places edited) {d : Document} (reads : parse text source = .ok d) :
    parse edited source = .ok d := by
  induction edits with
  | same text => exact reads
  | retouched text text' edited places before line line' after parts parts' edit further ih =>
    exact ih ((parse_retouched parts parts' edit).trans reads)
  | returned before after edited places further ih =>
    exact ih ((parse_returned before after).trans reads)
  | inserted text text' edited places before line after parts parts' ignored further ih =>
    exact ih (parse_inserted_ok parts parts' ignored reads)

/-- Layout and comments are invisible: whatever edits of that kind lead from one text to another,
the second has the sections of the first, and if the first is bad, the second is bad for the same
reason on the same line, the number of which counts the lines that came in above it. -/
theorem layout_invisible {text edited : String} {places : List Nat}
    (edits : Relaid text places edited) (source : Option Path) :
    (∀ d, parse text source = .ok d → parse edited source = .ok d) ∧
    ∀ e, parse text source = .error e →
      ∃ number fault, e = .malformed source number fault ∧
        parse edited source =
          .error (.malformed source (number + insertedAbove number places) fault) := by
  refine ⟨fun d reads => edits.parse_ok reads, fun e fails => ?_⟩
  obtain ⟨number, fault, rfl⟩ := malformed_of_parse fails
  exact ⟨number, fault, rfl, edits.parse_error fails⟩

end Document

namespace Sample

def tidyText : String := "x=1\n[s]"

def untidyText : String := "; top\r\nx= 1\n[ s]# one"

def faultyText : String := "x=1\ny"

def annotatedText : String := "\nx=1\n y\n # two"

theorem relaid_tidyText : Document.Relaid tidyText [0] untidyText := by
  refine .inserted _ "; top\nx=1\n[s]" _ _ [] "; top".toList ["x=1".toList, "[s]".toList]
    (by decide +kernel) (by decide +kernel)
    (.inr ⟨[], ';', " top".toList, rfl, Text.blanks_nil, rfl⟩) ?_
  refine .returned "; top" "x=1\n[s]" _ _ ?_
  refine .retouched _ "; top\r\nx= 1\n[s]" _ _ ["; top\r".toList] _ _ ["[s]".toList]
    (by decide +kernel) (by decide +kernel)
    (.behindEquals ['x'] [' '] ['1'] Line.blanks_space (by simp) (by decide +kernel)) ?_
  refine .retouched _ "; top\r\nx= 1\n[ s]" _ _ ["; top\r".toList, "x= 1".toList] _ _ []
    (by decide +kernel) (by decide +kernel)
    (.opening [] [' '] "s]".toList Text.blanks_nil Line.blanks_space) ?_
  exact .retouched _ untidyText _ _ ["; top\r".toList, "x= 1".toList] _ _ []
    (by decide +kernel) (by decide +kernel)
    (.comment "[ s]".toList [] '#' " one".toList [] (by decide +kernel)
      (by simp [Line.CommentBehind]) rfl Text.blanks_nil) (.same _)

theorem relaid_faultyText : Document.Relaid faultyText [0, 3] annotatedText := by
  refine .inserted _ "\nx=1\ny" _ _ [] [] ["x=1".toList, "y".toList]
    (by decide +kernel) (by decide +kernel) (.inl Text.blanks_nil) ?_
  refine .inserted _ "\nx=1\ny\n # two" _ _ [[], "x=1".toList, "y".toList] " # two".toList []
    (by decide +kernel) (by decide +kernel)
    (.inr ⟨[' '], '#', " two".toList, rfl, Line.blanks_space, rfl⟩) ?_
  exact .retouched _ annotatedText _ _ [[], "x=1".toList] _ _ [" # two".toList]
    (by decide +kernel) (by decide +kernel) (.start [' '] ['y'] Line.blanks_space) (.same _)

/-- The line without an equals sign is the second, and the third once a line stands above it. -/
theorem edits_unseen :
    Document.Relaid tidyText [0] untidyText ∧
    (∃ d, Document.parse tidyText none = .ok d ∧ Document.parse untidyText none = .ok d ∧
      d.sections.map Section.writtenLines = [["x = 1"], ["[s]"]]) ∧
    Document.Relaid faultyText [0, 3] annotatedText ∧
    Document.parse faultyText none = .error (.malformed none 2 .noEqualsSign) ∧
    Document.parse annotatedText none = .error (.malformed none 3 .noEqualsSign) := by
  obtain ⟨same, _⟩ := Document.layout_invisible relaid_tidyText none
  obtain ⟨_, shifted⟩ := Document.layout_invisible relaid_faultyText none
  have faulty : Document.parse faultyText none = .error (.malformed none 2 .noEqualsSign) :=
    Outcome.fault?_eq_some.mp (by decide +kernel)
  refine ⟨relaid_tidyText, ?_, relaid_faultyText, faulty, ?_⟩
  · have shown : (Document.parse tidyText none).toOption.map
        (fun d => d.sections.map Section.writtenLines) = some [["x = 1"], ["[s]"]] := by
      decide +kernel
    obtain ⟨d, reads, sections⟩ := Outcome.exists_of_map_toOption shown
    exact ⟨d, reads, same d reads, sections⟩
  · obtain ⟨number, fault, reason, reported⟩ := shifted _ faulty
    cases reason
    exact reported

end Sample

end DetectorGeometry
