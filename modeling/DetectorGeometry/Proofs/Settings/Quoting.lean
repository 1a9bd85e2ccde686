import DetectorGeometry.Proofs.Settings.Composition
import DetectorGeometry.Proofs.Settings.Elements

namespace DetectorGeometry

open Text

structure PlainKey (key : String) : Prop where
  nonempty : key ≠ ""
  plain : ∀ c ∈ key.toList, isBlank c = false ∧ c ≠ '=' ∧ c ≠ '[' ∧ Line.isSign c = false

/-- What can follow a value on its line: nothing, or a comment behind a space. -/
inductive Trailing : List Char → Prop where
  | nothing : Trailing []
  | comment {mark : Char} {said : List Char} (starts : Line.startsComment mark = true)
      (oneLine : '\n' ∉ said) : Trailing (' ' :: mark :: said)

section Word

theorem isBlank_of_isAlphanum {c : Char} (word : c.isAlphanum = true) : isBlank c = false := by
  have range : (65 ≤ c.toNat ∧ c.toNat ≤ 90 ∨ 97 ≤ c.toNat ∧ c.toNat ≤ 122) ∨
      48 ≤ c.toNat ∧ c.toNat ≤ 57 := by
    rcases Bool.or_eq_true_iff.mp word with letter | digit
    · rcases Bool.or_eq_true_iff.mp letter with upper | lower
      · exact .inl (.inl (of_decide_eq_true upper))
      · obtain ⟨least, greatest⟩ := Bool.and_eq_true_iff.mp lower
        exact .inl (.inr ⟨of_decide_eq_true least, of_decide_eq_true greatest⟩)
    · obtain ⟨least, greatest⟩ := Bool.and_eq_true_iff.mp digit
      exact .inr ⟨of_decide_eq_true least, of_decide_eq_true greatest⟩
  have outside : ∀ r ∈ blankRanges, ¬ (r.1 ≤ c.toNat ∧ c.toNat ≤ r.2) := by
    simp only [blankRanges, List.forall_mem_cons, List.not_mem_nil, false_implies, implies_true,
      and_true]
    omega
  exact List.any_eq_false.mpr fun r member => by simpa using outside r member

theorem plainKey_of_word {key : String} (nonempty : key ≠ "")
    (word : (key.toList.all fun c => c.isAlphanum || c == '_') = true) : PlainKey key := by
  refine ⟨nonempty, fun c member => ?_⟩
  have wordChar : c.isAlphanum = true ∨ c = '_' := by
    simpa using List.all_eq_true.mp word c member
  rcases wordChar with alphanum | rfl
  · have different : ∀ d, d.isAlphanum = false → c ≠ d := by
      rintro d none rfl
      exact absurd alphanum (by simp [none])
    have noSign : Line.isSign c = false := by
      simp [Line.isSign, Line.startsComment, different]
    exact ⟨isBlank_of_isAlphanum alphanum, different '=' (by decide), different '[' (by decide),
      noSign⟩
  · decide

end Word

namespace Line

variable {key : String} {value tail : List Char}

theorem closed_key (plain : PlainKey key) : Closed (key.toList ++ [' ', '=', ' ']) := by
  refine closed_of_noSigns fun c member => ?_
  rcases List.mem_append.mp member with inKey | inMiddle
  · exact (plain.plain c inKey).2.2.2
  · simp only [List.mem_cons, List.not_mem_nil, or_false] at inMiddle
    rcases inMiddle with rfl | rfl | rfl <;> decide

theorem blanks_beforeComment (trailing : Trailing tail) : Blanks (beforeComment false tail) := by
  cases trailing with
  | nothing => exact fun c member => absurd member (by simp [beforeComment])
  | comment starts _ =>
    have space : startsComment ' ' = false := by decide
    simpa [beforeComment, starts, space] using blanks_space

theorem read_closed (plain : PlainKey key) (closed : Closed value) (trimmed : Trimmed value)
    (trailing : Trailing tail) :
    read (key.toList ++ [' ', '=', ' '] ++ (value ++ tail)) =
      .ok (.setting key (String.ofList value)) := by
  have uncommented : beforeComment false (key.toList ++ [' ', '=', ' '] ++ (value ++ tail)) =
      key.toList ++ ' ' :: '=' :: ([' '] ++ (value ++ beforeComment false tail)) := by
    rw [(closed_key plain).beforeComment_append, closed.beforeComment_append]
    simp
  have first : key.toList.head? ≠ some '[' := by
    intro bracket
    exact (plain.plain '[' (List.mem_of_head? bracket)).2.2.1 rfl
  have reads := read_of_key uncommented (by simpa using plain.nonempty)
    (fun c member => ⟨(plain.plain c member).1, (plain.plain c member).2.1⟩) first
  rw [trim_blanks_append blanks_space, trim_append_blanks (blanks_beforeComment trailing),
    trimmed.trim_eq, String.ofList_toList] at reads
  exact reads

end Line

namespace Section

theorem get_set {β : Type} {s : Section} {reading : Reading β} {key text : String} {value : β}
    (reads : reading text = .ok value) : (s.set key text).get reading key = .ok value := by
  have found : (s.set key text).text key = .ok text := by
    rw [Section.text, get?_set, if_pos rfl]
  refine Outcome.bind_eq_ok.mpr ⟨text, found, ?_⟩
  simp only [reads]

theorem isEmpty_set (s : Section) (key value : String) : (s.set key value).isEmpty = false := by
  rw [← Bool.not_eq_true]
  intro empty
  have none := Table.isEmpty_iff.mp empty key
  rw [get?_set, if_pos rfl] at none
  cases none

end Section

namespace Document

/-- A text that sets one key and nothing else, in a section without a name. -/
def SetsOnly {β : Type} (text : String) (source : Option Path) (reading : Reading β) (key : String)
    (value : β) : Prop :=
  ∃ d, parse text source = .ok d ∧ d.sections = [d.header] ∧ d.header.get reading key = .ok value

variable {source : Option Path} {key : String} {value tail : List Char}

theorem parse_setting (source : Option Path) {line : List Char} {text ends : String}
    (oneLine : '\n' ∉ line) (reads : Line.read line = .ok (.setting key text))
    (last : ends = "" ∨ ends = "\n") :
    parse (String.ofList line ++ ends) source =
      .ok ⟨[(Section.new "" source).set key text]⟩ := by
  have finished : finish ((Section.new "" source).set key text) =
      [(Section.new "" source).set key text] := by
    simp [finish, Section.isEmpty_set]
  rcases last with rfl | rfl
  · refine parse_eq_ok.mpr ⟨[.setting key text], ?_, ?_⟩
    · rw [linesOf, String.append_empty, String.toList_ofList, split_of_notMem oneLine,
        List.mapM_cons, reads]
      rfl
    · rw [sectionsFrom, sectionsFrom, finished]
  · refine parse_eq_ok.mpr ⟨[.setting key text, .empty], ?_, ?_⟩
    · rw [linesOf, String.toList_append, String.toList_ofList, show "\n".toList = ['\n'] from rfl,
        split_append_mark, split_of_notMem oneLine, List.singleton_append, List.mapM_cons, reads]
      rfl
    · rw [sectionsFrom, sectionsFrom, sectionsFrom, finished]

theorem setsOnly_closed {β : Type} {reading : Reading β} {b : β} {ends : String}
    (plain : PlainKey key) (closed : Line.Closed value) (trimmed : Trimmed value)
    (trailing : Trailing tail) (oneLine : '\n' ∉ value)
    (reads : reading (String.ofList value) = .ok b) (last : ends = "" ∨ ends = "\n") :
    SetsOnly (key ++ " = " ++ String.ofList (value ++ tail) ++ ends) source reading key b := by
  have shape : key ++ " = " ++ String.ofList (value ++ tail) =
      String.ofList (key.toList ++ [' ', '=', ' '] ++ (value ++ tail)) := by
    apply String.toList_injective
    simp
  have tail_oneLine : '\n' ∉ tail := by
    cases trailing with
    | nothing => simp
    | comment starts oneLine =>
      have noFeed : ∀ mark, Line.startsComment mark = true → '\n' ≠ mark := by
        rintro _ starts rfl
        exact absurd starts (by decide)
      simp [oneLine, noFeed _ starts]
  have key_oneLine : '\n' ∉ key.toList := fun member =>
    absurd (plain.plain _ member).1 (by decide)
  have line_oneLine : '\n' ∉ key.toList ++ [' ', '=', ' '] ++ (value ++ tail) := by
    simp [key_oneLine, oneLine, tail_oneLine]
  have parsed := parse_setting source line_oneLine
    (Line.read_closed plain closed trimmed trailing) last
  refine ⟨_, shape ▸ parsed, rfl, ?_⟩
  exact Section.get_set reads

end Document

namespace Reading

theorem string_quoted (s : String) :
    string (String.ofList ('"' :: (s.toList ++ ['"']))) = .ok s := by
  rw [string, String.toList_ofList, (trimmed_quoted s.toList).trim_eq, unquote]
  simp

theorem strings_listed {items : List String} {cs : List Char}
    (quotable : Quotable (items.map String.toList)) (listed : Listed (items.map String.toList) cs) :
    strings (String.ofList cs) = .ok items := by
  rw [strings, String.toList_ofList, elements?_listed quotable listed]
  simp

end Reading

namespace Document

/-- A list of texts without quotes, line feeds or empty elements is read back from any way of
writing it behind a key, and so is a single text in quotes, be it empty. Conversely, whatever is
read as a list has no empty elements and no quotes, and only a quote that stays open keeps a value
from being a list. -/
theorem quoting_agrees (source : Option Path) :
    (∀ (key : String) (items : List String) (listed tail : List Char) (ends : String),
      PlainKey key → (∀ item ∈ items, item ≠ "" ∧ '"' ∉ item.toList ∧ '\n' ∉ item.toList) →
      Reading.Listed (items.map String.toList) listed → Trailing tail → (ends = "" ∨ ends = "\n") →
      SetsOnly (key ++ " = " ++ String.ofList (listed ++ tail) ++ ends) source Reading.strings key
        items) ∧
    (∀ (key s ends : String), PlainKey key → '"' ∉ s.toList → '\n' ∉ s.toList →
      (ends = "" ∨ ends = "\n") →
      SetsOnly (key ++ " = " ++ ("\"" ++ s ++ "\"") ++ ends) source Reading.string key s) ∧
    (∀ text items, Reading.strings text = .ok items →
      ∀ item ∈ items, item ≠ "" ∧ '"' ∉ item.toList) ∧
    ∀ text, (∃ fault, Reading.strings text = .error fault) ↔ text.toList.count '"' % 2 = 1 := by
  refine ⟨?_, ?_, ?_, ?_⟩
  · intro key items listed tail ends plain allowed spelled trailing last
    have quotable : Reading.Quotable (items.map String.toList) := by
      intro item member
      obtain ⟨text, inItems, rfl⟩ := List.mem_map.mp member
      obtain ⟨nonempty, noQuote, _⟩ := allowed text inItems
      exact ⟨by simpa using nonempty, noQuote⟩
    have oneLine : ∀ item ∈ items.map String.toList, '\n' ∉ item := by
      intro item member
      obtain ⟨text, inItems, rfl⟩ := List.mem_map.mp member
      exact (allowed text inItems).2.2
    exact setsOnly_closed plain (Reading.closed_listed quotable spelled)
      (Reading.trimmed_listed quotable spelled).2 trailing (Reading.oneLine_listed oneLine spelled)
      (Reading.strings_listed quotable spelled) last
  · intro key s ends plain noQuote oneLine last
    have shape : "\"" ++ s ++ "\"" = String.ofList ('"' :: (s.toList ++ ['"']) ++ []) := by
      apply String.toList_injective
      simp
    rw [shape]
    exact setsOnly_closed plain (Line.closed_quoted noQuote) (Reading.trimmed_quoted s.toList)
      .nothing (by simp [oneLine]) (Reading.string_quoted s) last
  · intro text items read item member
    rw [Reading.strings] at read
    split at read
    case h_1 => cases read
    case h_2 elements found =>
      cases read
      obtain ⟨element, inElements, rfl⟩ := List.mem_map.mp member
      obtain ⟨nonempty, noQuote⟩ := Reading.quotable_of_elements? found element inElements
      exact ⟨by simpa using nonempty, by simpa using noQuote⟩
  · intro text
    rw [← Reading.elements?_eq_none, Reading.strings]
    cases Reading.elements? text.toList <;> simp

end Document

namespace Sample

/-- A list with a number sign and a semicolon in quotes, a bare element with brackets, two kinds of
gaps and a comment. -/
theorem quoted_list_is_read :
    Document.SetsOnly "models = \"a # b\", c=[1]\t\"d;\" ; e" none Reading.strings "models"
      ["a # b", "c=[1]", "d;"] ∧
    Document.SetsOnly "name = \"\"\n" none Reading.string "name" "" ∧
    (∃ fault, Reading.strings "a, \"b c" = .error fault) ∧
    ∀ item ∈ ["a", "b c", "d"], item ≠ "" ∧ '"' ∉ item.toList := by
  obtain ⟨lists, texts, sound, fails⟩ := Document.quoting_agrees none
  have solid : ("c=[1]".toList.all fun c =>
      !Reading.isSeparator c && !Line.startsComment c) = true := by
    decide +kernel
  have bare : Reading.Spelled "c=[1]".toList "c=[1]".toList :=
    .bare fun c member => by simpa using List.all_eq_true.mp solid c member
  have comma : Reading.Gap [',', ' '] := by decide
  have tab : Reading.Gap ['\t'] := by decide
  have listed : Reading.Listed (["a # b", "c=[1]", "d;"].map String.toList)
      "\"a # b\", c=[1]\t\"d;\"".toList :=
    .more .quoted comma (.more bare tab (.one .quoted))
  have starts : Line.startsComment ';' = true := by decide
  have oneLine : '\n' ∉ [' ', 'e'] := by decide
  have trailing : Trailing " ; e".toList := .comment starts oneLine
  refine ⟨?_, ?_, (fails _).mpr (by decide +kernel), ?_⟩
  · have read := lists "models" _ _ _ "" (plainKey_of_word (by decide) (by decide +kernel))
      (by decide +kernel) listed trailing (.inl rfl)
    exact read
  · exact texts "name" "" "\n" (plainKey_of_word (by decide) (by decide +kernel)) (by decide)
      (by decide) (.inr rfl)
  · exact sound "a, \"b c\"  d" _ (by decide +kernel)

end Sample

end DetectorGeometry
