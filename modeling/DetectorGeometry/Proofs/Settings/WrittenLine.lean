import DetectorGeometry.Proofs.Outcome
import DetectorGeometry.Proofs.Settings.Comment

namespace DetectorGeometry

open Text

/-- A name that can stand in a header. -/
structure WritableName (name : String) : Prop where
  nonempty : name ≠ ""
  oneLine : '\n' ∉ name.toList
  trimmed : Trimmed name.toList
  plain : Line.Plain ("[" ++ name ++ "]").toList

structure WritableSetting (key value : String) : Prop where
  nonempty : key ≠ ""
  solid : ∀ c ∈ key.toList, isBlank c = false ∧ c ≠ '='
  first : key.toList.head? ≠ some '['
  oneLine : '\n' ∉ value.toList
  trimmed : Trimmed value.toList
  plain : Line.Plain (key ++ " = " ++ value).toList

instance (name : String) : Decidable (WritableName name) :=
  decidable_of_iff (name ≠ "" ∧ '\n' ∉ name.toList ∧ Trimmed name.toList ∧
      Line.Plain ("[" ++ name ++ "]").toList)
    ⟨fun ⟨nonempty, oneLine, trimmed, plain⟩ => ⟨nonempty, oneLine, trimmed, plain⟩,
      fun ⟨nonempty, oneLine, trimmed, plain⟩ => ⟨nonempty, oneLine, trimmed, plain⟩⟩

instance (key value : String) : Decidable (WritableSetting key value) :=
  decidable_of_iff (key ≠ "" ∧ (key.toList.all fun c => !isBlank c && c != '=') = true ∧
      key.toList.head? ≠ some '[' ∧ '\n' ∉ value.toList ∧ Trimmed value.toList ∧
      Line.Plain (key ++ " = " ++ value).toList)
    ⟨fun ⟨nonempty, solid, first, oneLine, trimmed, plain⟩ =>
        ⟨nonempty, by simpa using solid, first, oneLine, trimmed, plain⟩,
      fun ⟨nonempty, solid, first, oneLine, trimmed, plain⟩ =>
        ⟨nonempty, by simpa using solid, first, oneLine, trimmed, plain⟩⟩

namespace Line

def written : Line → String
  | empty => ""
  | header name => "[" ++ name ++ "]"
  | setting key value => key ++ " = " ++ value

def Writable : Line → Prop
  | empty => True
  | header name => WritableName name
  | setting key value => WritableSetting key value

section Setting

variable {before after : List Char}

theorem readSetting_append (first : '=' ∉ before) :
    readSetting (before ++ '=' :: after) =
      if (trim before).isEmpty || (trim before).any isBlank then .error .badKey
      else .ok (.setting (String.ofList (trim before)) (String.ofList (trim after))) := by
  have passed : ∀ c ∈ before, (c != '=') = true := by
    intro c member
    rw [bne_iff_ne]
    rintro rfl
    exact first member
  have taken : (before ++ '=' :: after).takeWhile (· != '=') = before := by
    rw [List.takeWhile_append_of_pos passed]
    simp
  have dropped : (before ++ '=' :: after).dropWhile (· != '=') = '=' :: after := by
    rw [List.dropWhile_append_of_pos passed]
    simp
  rw [readSetting, taken, dropped]

theorem readSetting_of_notMem {cs : List Char} (absent : '=' ∉ cs) :
    readSetting cs = .error .noEqualsSign := by
  have dropped : cs.dropWhile (· != '=') = [] := by
    refine List.dropWhile_eq_nil_iff.mpr fun c member => ?_
    rw [bne_iff_ne]
    rintro rfl
    exact absent member
  rw [readSetting, dropped]

theorem readSetting_trim (cs : List Char) : readSetting (trim cs) = readSetting cs := by
  by_cases divided : '=' ∈ cs
  · obtain ⟨before, after, rfl, first⟩ := List.eq_append_cons_of_mem divided
    rw [trim_append_cons (by decide), readSetting_append first,
      readSetting_append fun member => first (mem_of_mem_trimStart member), trim_trimStart,
      trim_trimEnd]
  · rw [readSetting_of_notMem divided,
      readSetting_of_notMem fun member => divided (mem_of_mem_trim member)]

end Setting

/-- What stands on a line in front of a comment, without the blanks around it. -/
def content (cs : List Char) : List Char := trim (beforeComment false cs)

theorem plain_content (cs : List Char) : Plain (content cs) :=
  (plain_congr (signs_trim _)).mpr (plain_beforeComment cs)

theorem trimmed_content (cs : List Char) : Trimmed (content cs) := trimmed_trim _

theorem mem_of_mem_content {cs : List Char} {c : Char} (member : c ∈ content cs) : c ∈ cs :=
  mem_of_mem_beforeComment (mem_of_mem_trim member)

theorem read_eq (cs : List Char) :
    read cs =
      match content cs with
      | [] => .ok .empty
      | c :: rest => if c = '[' then readHeader rest else readSetting (c :: rest) := by
  rw [read, ← content]
  cases content cs with
  | nil => rfl
  | cons c rest =>
    split
    case h_1 shown => cases shown
    case h_2 shown =>
      obtain ⟨rfl, rfl⟩ := List.cons.inj shown
      rfl
    case h_3 noHeader =>
      have different : c ≠ '[' := fun same => noHeader rest (congrArg (· :: rest) same)
      exact (if_neg different).symm

section Written

variable (name key value : String)

theorem written_header_toList :
    (written (.header name)).toList = '[' :: (name.toList ++ [']']) := by
  simp [written]

theorem written_setting_toList :
    (written (.setting key value)).toList =
      key.toList ++ ' ' :: '=' :: ([' '] ++ value.toList) := by
  simp [written]

theorem signs_written_header : signs (written (.header name)).toList = signs name.toList := by
  rw [written_header_toList, signs_cons_of_not (by decide), signs_append]
  exact List.append_nil _

theorem signs_written_setting :
    signs (written (.setting key value)).toList = signs key.toList ++ signs value.toList := by
  rw [written_setting_toList, signs_append, signs_cons_of_not (by decide),
    signs_cons_of_not (by decide), List.singleton_append, signs_cons_of_not (by decide)]

end Written

theorem blanks_space : Blanks [' '] := by
  intro c member
  rw [List.mem_singleton.mp member]
  decide

theorem read_of_key {key value cs : List Char}
    (uncommented : beforeComment false cs = key ++ ' ' :: '=' :: value) (nonempty : key ≠ [])
    (solid : ∀ c ∈ key, isBlank c = false ∧ c ≠ '=') (first : key.head? ≠ some '[') :
    read cs = .ok (.setting (String.ofList key) (String.ofList (trim value))) := by
  have trimmed : trim (key ++ [' ']) = key := by
    rw [trim_append_blanks blanks_space]
    exact (Trimmed.of_solid fun c member => (solid c member).1).trim_eq
  have noEquals : '=' ∉ key ++ [' '] := by
    intro member
    rcases List.mem_append.mp member with inKey | inBlank
    · exact (solid '=' inKey).2 rfl
    · simp at inBlank
  have keyed : ¬ (key.isEmpty || key.any isBlank) = true := by
    rw [Bool.not_eq_true, Bool.or_eq_false_iff, List.isEmpty_eq_false_iff, List.any_eq_false]
    exact ⟨nonempty, fun c member => by simp [(solid c member).1]⟩
  obtain ⟨c, rest, rfl⟩ := List.exists_cons_of_ne_nil nonempty
  have starts : content cs = c :: trimEnd (rest ++ ' ' :: '=' :: value) := by
    rw [content, uncommented]
    exact trim_cons (solid c List.mem_cons_self).1 _
  have noHeader : c ≠ '[' := fun same => first (by simp [same])
  rw [read_eq, starts]
  dsimp only
  rw [if_neg noHeader, ← starts, content, readSetting_trim, uncommented, List.append_cons,
    readSetting_append noEquals, trimmed, if_neg keyed]

theorem read_written_setting {key value : String} (writable : WritableSetting key value) :
    read (written (.setting key value)).toList = .ok (.setting key value) := by
  have uncommented := plain_iff.mp writable.plain
  have reads := read_of_key (uncommented.trans (written_setting_toList key value))
    (by simpa using writable.nonempty) writable.solid writable.first
  rw [trim_blanks_append blanks_space, writable.trimmed.trim_eq, String.ofList_toList,
    String.ofList_toList] at reads
  exact reads

theorem read_written_header {name : String} (writable : WritableName name) :
    read (written (.header name)).toList = .ok (.header name) := by
  have trimmed : Trimmed ('[' :: (name.toList ++ [']'])) := by
    constructor
    · intro c first
      cases first
      decide
    · intro c last
      rw [← List.cons_append, List.getLast?_concat] at last
      cases last
      decide
  have uncommented : beforeComment false (written (.header name)).toList =
      (written (.header name)).toList := plain_iff.mp writable.plain
  have named : name.toList.isEmpty = false := by
    simpa using writable.nonempty
  rw [read_eq, content, uncommented, written_header_toList, trimmed.trim_eq]
  simp [readHeader, writable.trimmed.trim_eq, named]

theorem read_written {line : Line} (writable : line.Writable) :
    read line.written.toList = .ok line := by
  cases line with
  | empty => rfl
  | header name => exact read_written_header writable
  | setting key value => exact read_written_setting writable

section Read

variable {cs : List Char} {line : Line}

theorem writable_of_readHeader {inner : List Char} (oneLine : '\n' ∉ cs)
    (shown : content cs = '[' :: inner) (headed : readHeader inner = .ok line) :
    line.Writable := by
  rw [readHeader] at headed
  split at headed
  case isFalse => cases headed
  case isTrue closed =>
    obtain ⟨name, rfl⟩ := List.getLast?_eq_some_iff.mp closed
    rw [List.dropLast_concat] at headed
    dsimp only at headed
    split at headed
    case isTrue => cases headed
    case isFalse named =>
      cases headed
      refine ⟨by simpa using named, ?_, ?_, ?_⟩
      · rw [String.toList_ofList]
        intro feed
        refine oneLine (mem_of_mem_content ?_)
        rw [shown]
        simp [mem_of_mem_trim feed]
      · rw [String.toList_ofList]
        exact trimmed_trim name
      · refine (plain_congr ?_).mp (plain_content cs)
        have written := signs_written_header (String.ofList (trim name))
        rw [String.toList_ofList, signs_trim] at written
        rw [shown, signs_cons_of_not (by decide), signs_append, ← written]
        exact List.append_nil _

theorem writable_of_readSetting {c : Char} {rest : List Char} (oneLine : '\n' ∉ cs)
    (shown : content cs = c :: rest) (noHeader : c ≠ '[')
    (isSetting : readSetting (c :: rest) = .ok line) : line.Writable := by
  rw [← shown] at isSetting
  by_cases divided : '=' ∈ content cs
  case neg =>
    rw [readSetting_of_notMem divided] at isSetting
    cases isSetting
  obtain ⟨before, after, parts, first⟩ := List.eq_append_cons_of_mem divided
  rw [parts, readSetting_append first] at isSetting
  split at isSetting
  case isTrue => cases isSetting
  case isFalse keyed =>
    cases isSetting
    rw [Bool.not_eq_true, Bool.or_eq_false_iff, List.isEmpty_eq_false_iff,
      List.any_eq_false] at keyed
    obtain ⟨nonempty, solid⟩ := keyed
    refine ⟨by simpa using nonempty, ?_, ?_, ?_, ?_, ?_⟩
    · rw [String.toList_ofList]
      intro b member
      refine ⟨by simpa using solid b member, ?_⟩
      rintro rfl
      exact first (mem_of_mem_trim member)
    · rw [String.toList_ofList]
      have startsSolid := (trimmed_content cs).first c (by rw [shown]; rfl)
      cases before with
      | nil => exact absurd rfl nonempty
      | cons b before =>
        obtain ⟨rfl, _⟩ := List.cons.inj (shown.symm.trans parts)
        rw [trim_cons startsSolid]
        simpa using noHeader
    · rw [String.toList_ofList]
      intro feed
      refine oneLine (mem_of_mem_content ?_)
      rw [parts]
      simp [mem_of_mem_trim feed]
    · rw [String.toList_ofList]
      exact trimmed_trim after
    · refine (plain_congr ?_).mp (plain_content cs)
      have written := signs_written_setting (String.ofList (trim before))
        (String.ofList (trim after))
      rw [String.toList_ofList, String.toList_ofList, signs_trim, signs_trim] at written
      rw [parts, signs_append, signs_cons_of_not (by decide), ← written]
      rfl

/-- Whatever one line of a text says can be written. -/
theorem writable_of_read (oneLine : '\n' ∉ cs) (reads : read cs = .ok line) : line.Writable := by
  rw [read_eq] at reads
  split at reads
  case h_1 =>
    cases reads
    trivial
  case h_2 c rest shown =>
    split at reads
    case isTrue header => exact writable_of_readHeader oneLine (header ▸ shown) reads
    case isFalse noHeader => exact writable_of_readSetting oneLine shown noHeader reads

end Read

end Line

end DetectorGeometry
