import DetectorGeometry.Proofs.Settings.WrittenLine

/-!
Edits of a line that change nothing about what it says. Comments are cut off first and blanks are
trimmed from what remains, so that a run of blanks matters only where it parts characters that
belong together: at the ends of a line, around the equals sign that divides a setting and inside
the brackets of a header it does not (`Line.Retouched.read_eq`). This holds for bad lines as well,
which stay bad for the same reason.
-/
namespace DetectorGeometry.Line

open Text

/-- A line of blanks, or one on which nothing but blanks stands in front of a comment. -/
def Ignored (line : List Char) : Prop :=
  Blanks line ∨
    ∃ lead mark text, line = lead ++ mark :: text ∧ Blanks lead ∧ startsComment mark = true

def OpensHeader (line : List Char) : Prop := (trim line).head? = some '['

instance (line : List Char) : Decidable (OpensHeader line) :=
  inferInstanceAs (Decidable (_ = _))

/-- What follows a text on a line is a comment or nothing: it starts with one of the two characters
for that, and no quote is open there. -/
def CommentBehind (before comment : List Char) : Prop :=
  ∀ mark text, comment = mark :: text → startsComment mark = true ∧ before.count '"' % 2 = 0

inductive Retouched : List Char → List Char → Prop where
  | start (gap line : List Char) (blank : Blanks gap) : Retouched line (gap ++ line)
  | stop (line gap ending : List Char) (blank : Blanks gap) (ends : Blanks ending) :
      Retouched (line ++ ending) (line ++ (gap ++ ending))
  | beforeEquals (key gap value : List Char) (blank : Blanks gap) (first : '=' ∉ key)
      (noHeader : ¬ OpensHeader (key ++ '=' :: value)) :
      Retouched (key ++ '=' :: value) (key ++ (gap ++ '=' :: value))
  | behindEquals (key gap value : List Char) (blank : Blanks gap) (first : '=' ∉ key)
      (noHeader : ¬ OpensHeader (key ++ '=' :: value)) :
      Retouched (key ++ '=' :: value) (key ++ '=' :: (gap ++ value))
  | opening (lead gap rest : List Char) (leads : Blanks lead) (blank : Blanks gap) :
      Retouched (lead ++ '[' :: rest) (lead ++ '[' :: (gap ++ rest))
  /-- Blanks in front of the last bracket that closes a header, behind which there may be a
  comment. -/
  | closing (lead name gap rest comment : List Char) (leads : Blanks lead) (blank : Blanks gap)
      (last : ']' ∉ rest) (behind : CommentBehind (lead ++ '[' :: (name ++ ']' :: rest)) comment) :
      Retouched (lead ++ '[' :: (name ++ ']' :: rest) ++ comment)
        (lead ++ '[' :: (name ++ (gap ++ ']' :: rest)) ++ comment)
  /-- A comment behind a text that leaves no quote open and behind the comment that may follow it. -/
  | comment (before old : List Char) (mark : Char) (text ending : List Char)
      (even : before.count '"' % 2 = 0) (behind : CommentBehind before old)
      (starts : startsComment mark = true) (ends : Blanks ending) :
      Retouched (before ++ (old ++ ending)) (before ++ (old ++ mark :: (text ++ ending)))

section Cut

variable {before comment cs gap : List Char}

theorem blanks_noSigns (blank : Blanks cs) : ∀ c ∈ cs, isSign c = false :=
  fun c member => isSign_of_isBlank (blank c member)

theorem count_quote_blanks (blank : Blanks gap) : gap.count '"' = 0 :=
  List.count_eq_zero.mpr fun member => absurd (blank _ member) (by decide)

theorem CommentBehind.congr {before' : List Char} (behind : CommentBehind before comment)
    (same : before'.count '"' = before.count '"') : CommentBehind before' comment := by
  intro mark text shape
  rw [same]
  exact behind mark text shape

theorem beforeComment_blanks (blank : Blanks gap) (quoted : Bool) (cs : List Char) :
    beforeComment quoted (gap ++ cs) = gap ++ beforeComment quoted cs := by
  have noSigns : signs gap = [] := signs_eq_nil (blanks_noSigns blank)
  have kept : beforeComment quoted gap = gap := by
    rw [← beforeComment_signs, noSigns]
    rfl
  have unquoted : quotedAfter quoted gap = quoted := by simp [quotedAfter, count_quote_blanks blank]
  rw [beforeComment_append kept, unquoted]

theorem beforeComment_commentBehind (behind : CommentBehind before comment) :
    beforeComment false (before ++ comment) = beforeComment false before := by
  by_cases plain : beforeComment false before = before
  case neg => exact beforeComment_append_of_ne plain comment
  case pos =>
    cases comment with
    | nil => rw [List.append_nil]
    | cons mark text =>
      obtain ⟨starts, even⟩ := behind mark text rfl
      have unquoted : quotedAfter false before = false := by
        rw [← Bool.not_eq_true, quotedAfter_false]
        omega
      rw [beforeComment_append plain, unquoted, beforeComment, if_pos (by simp [starts]), plain,
        List.append_nil]

theorem beforeComment_gap (blank : Blanks gap) (before after : List Char) :
    beforeComment false (before ++ (gap ++ after)) = beforeComment false (before ++ after) ∨
      ∃ rest, rest = beforeComment (quotedAfter false before) after ∧
        beforeComment false (before ++ after) = before ++ rest ∧
        beforeComment false (before ++ (gap ++ after)) = before ++ (gap ++ rest) := by
  by_cases plain : beforeComment false before = before
  case neg =>
    exact .inl ((beforeComment_append_of_ne plain _).trans
      (beforeComment_append_of_ne plain _).symm)
  case pos =>
    refine .inr ⟨_, rfl, beforeComment_append plain after, ?_⟩
    rw [beforeComment_append plain, beforeComment_blanks blank]

end Cut

section Content

variable {cs ds gap : List Char}

theorem read_congr (same : content cs = content ds) : read cs = read ds := by
  rw [read_eq, read_eq, same]

theorem read_of_cut (same : beforeComment false cs = beforeComment false ds) : read cs = read ds :=
  read_congr (congrArg trim same)

theorem content_blanks_append (blank : Blanks gap) (cs : List Char) :
    content (gap ++ cs) = content cs := by
  rw [content, beforeComment_blanks blank, trim_blanks_append blank, content]

theorem content_append_blanks (blank : Blanks gap) (cs : List Char) :
    content (cs ++ gap) = content cs := by
  have uncut := beforeComment_gap blank cs []
  rw [List.append_nil, List.append_nil] at uncut
  rcases uncut with same | ⟨rest, none, cut, cut'⟩
  · exact congrArg trim same
  · rw [content, content, cut, cut', none, beforeComment, List.append_nil, List.append_nil,
      trim_append_blanks blank]

theorem read_of_ignored (ignored : Ignored cs) : read cs = .ok .empty := by
  suffices nothing : content cs = [] by rw [read_eq, nothing]
  rcases ignored with blank | ⟨lead, mark, text, rfl, blank, starts⟩
  · rw [← List.append_nil cs, content_blanks_append blank]
    rfl
  · rw [content_blanks_append blank, content, beforeComment, if_pos (by simp [starts])]
    rfl

end Content

section Setting

variable {key value cs gap : List Char}

theorem opensHeader_iff (key value : List Char) :
    OpensHeader (key ++ '=' :: value) ↔ OpensHeader key := by
  rw [OpensHeader, OpensHeader, head?_trim, head?_trim, trimStart_append_cons (by decide)]
  cases trimStart key with
  | nil => simp
  | cons c rest => rfl

theorem opensHeader_append_blanks (blank : Blanks gap) :
    OpensHeader (key ++ gap) ↔ OpensHeader key := by
  rw [OpensHeader, trim_append_blanks blank, OpensHeader]

theorem read_of_equals (cut : beforeComment false cs = key ++ '=' :: value) (first : '=' ∉ key)
    (noHeader : ¬ OpensHeader key) :
    read cs =
      if (trim key).isEmpty || (trim key).any isBlank then .error .badKey
      else .ok (.setting (String.ofList (trim key)) (String.ofList (trim value))) := by
  rw [← readSetting_append first, ← readSetting_trim, read_eq, content, cut]
  rw [← opensHeader_iff key value, OpensHeader] at noHeader
  cases shape : trim (key ++ '=' :: value) with
  | nil =>
    rw [trim_append_cons (by decide)] at shape
    simp at shape
  | cons c rest =>
    rw [shape] at noHeader
    exact if_neg fun same => noHeader (congrArg some same)

theorem read_beforeEquals (blank : Blanks gap) (first : '=' ∉ key) (noHeader : ¬ OpensHeader key)
    (value : List Char) :
    read (key ++ (gap ++ '=' :: value)) = read (key ++ '=' :: value) := by
  rcases beforeComment_gap blank key ('=' :: value) with same | ⟨rest, shape, cut, cut'⟩
  · exact read_of_cut same
  · rw [beforeComment_cons_of_not (by decide)] at shape
    subst shape
    rw [← List.append_assoc, ← List.append_assoc] at cut'
    have first' : '=' ∉ key ++ gap := by
      intro member
      rcases List.mem_append.mp member with inKey | inGap
      · exact first inKey
      · exact absurd (blank _ inGap) (by decide)
    have noHeader' : ¬ OpensHeader (key ++ gap) := by rwa [opensHeader_append_blanks blank]
    rw [read_of_equals cut first noHeader, ← List.append_assoc,
      read_of_equals cut' first' noHeader', trim_append_blanks blank]

theorem read_behindEquals (blank : Blanks gap) (first : '=' ∉ key)
    (noHeader : ¬ OpensHeader key) (value : List Char) :
    read (key ++ '=' :: (gap ++ value)) = read (key ++ '=' :: value) := by
  have split := fun rest : List Char => List.append_cons key '=' rest
  rcases beforeComment_gap blank (key ++ ['=']) value with same | ⟨rest, _, cut, cut'⟩
  · rw [split (gap ++ value), split value]
    exact read_of_cut same
  · rw [← split, ← split] at cut cut'
    rw [read_of_equals cut first noHeader, read_of_equals cut' first noHeader,
      trim_blanks_append blank]

end Setting

section Header

variable {lead cs rest front back gap : List Char}

theorem read_of_bracket (leads : Blanks lead) (cs : List Char) :
    read (lead ++ '[' :: cs) = readHeader (trimEnd (beforeComment false cs)) := by
  have shown : content (lead ++ '[' :: cs) = '[' :: trimEnd (beforeComment false cs) := by
    rw [content_blanks_append leads, content, beforeComment_cons_of_not (by decide),
      trim_cons (by decide)]
  rw [read_eq, shown]
  exact if_pos rfl

theorem readHeader_trimEnd {c : Char} (solid : isBlank c = false) (ends : Blanks back)
    (front : List Char) :
    readHeader (trimEnd (front ++ c :: back)) =
      if c = ']' then
        if (trim front).isEmpty then .error .headerWithoutName
        else .ok (.header (String.ofList (trim front)))
      else .error .headerNotClosed := by
  rw [trimEnd_append_cons solid, trimEnd_eq_nil ends]
  simp [readHeader]

theorem readHeader_trimEnd_blanks (blank : Blanks cs) :
    readHeader (trimEnd cs) = .error .headerNotClosed := by
  rw [trimEnd_eq_nil blank]
  rfl

theorem read_opening (leads : Blanks lead) (blank : Blanks gap) (rest : List Char) :
    read (lead ++ '[' :: (gap ++ rest)) = read (lead ++ '[' :: rest) := by
  rw [read_of_bracket leads, read_of_bracket leads, beforeComment_blanks blank]
  rcases blanks_or_last_solid (beforeComment false rest) with
    allBlank | ⟨front, c, back, shape, solid, ends⟩
  · rw [readHeader_trimEnd_blanks allBlank, readHeader_trimEnd_blanks (blank.append allBlank)]
  · rw [shape, ← List.append_assoc, readHeader_trimEnd solid ends, readHeader_trimEnd solid ends,
      trim_blanks_append blank]

theorem readHeader_gap (blank : Blanks gap) (last : ']' ∉ rest) (name : List Char) :
    readHeader (trimEnd (name ++ (gap ++ ']' :: rest))) =
      readHeader (trimEnd (name ++ ']' :: rest)) := by
  rw [← List.append_assoc]
  rcases blanks_or_last_solid rest with ends | ⟨front, c, back, rfl, solid, ends⟩
  · rw [readHeader_trimEnd (by decide) ends, readHeader_trimEnd (by decide) ends,
      trim_append_blanks blank]
  · have unclosed : c ≠ ']' := by
      rintro rfl
      simp at last
    rw [← List.cons_append, ← List.append_assoc, ← List.append_assoc,
      readHeader_trimEnd solid ends, readHeader_trimEnd solid ends, if_neg unclosed,
      if_neg unclosed]

theorem read_closing (leads : Blanks lead) (blank : Blanks gap) (last : ']' ∉ rest)
    (name : List Char) :
    read (lead ++ '[' :: (name ++ (gap ++ ']' :: rest))) =
      read (lead ++ '[' :: (name ++ ']' :: rest)) := by
  rw [read_of_bracket leads, read_of_bracket leads]
  rcases beforeComment_gap blank name (']' :: rest) with same | ⟨tail, shape, cut, cut'⟩
  · rw [same]
  · rw [beforeComment_cons_of_not (by decide)] at shape
    rw [cut, cut', shape]
    exact readHeader_gap blank (fun member => last (mem_of_mem_beforeComment member)) name

end Header

theorem content_comment {before text : List Char} {mark : Char}
    (even : before.count '"' % 2 = 0) (starts : startsComment mark = true) :
    content (before ++ mark :: text) = content before := by
  refine congrArg trim (beforeComment_commentBehind ?_)
  rintro _ _ ⟨⟩
  exact ⟨starts, even⟩

theorem read_comment {before old text ending : List Char} {mark : Char}
    (even : before.count '"' % 2 = 0) (behind : CommentBehind before old)
    (starts : startsComment mark = true) (ends : Blanks ending) :
    read (before ++ (old ++ mark :: (text ++ ending))) = read (before ++ (old ++ ending)) := by
  refine read_congr ?_
  cases old with
  | nil => exact (content_comment even starts).trans (content_append_blanks ends before).symm
  | cons first old =>
    obtain ⟨startsOld, _⟩ := behind first old rfl
    exact (content_comment even startsOld).trans (content_comment even startsOld).symm

theorem Retouched.read_eq {line line' : List Char} (edit : Retouched line line') :
    read line' = read line := by
  cases edit with
  | start gap line blank => exact read_congr (content_blanks_append blank line)
  | stop line gap ending blank ends =>
    refine read_congr ((content_append_blanks (blank.append ends) line).trans ?_)
    exact (content_append_blanks ends line).symm
  | beforeEquals key gap value blank first noHeader =>
    exact read_beforeEquals blank first (mt (opensHeader_iff key value).mpr noHeader) value
  | behindEquals key gap value blank first noHeader =>
    exact read_behindEquals blank first (mt (opensHeader_iff key value).mpr noHeader) value
  | opening lead gap rest leads blank => exact read_opening leads blank rest
  | closing lead name gap rest comment leads blank last behind =>
    have behind' : CommentBehind (lead ++ '[' :: (name ++ (gap ++ ']' :: rest))) comment :=
      behind.congr (by simp [count_quote_blanks blank])
    rw [read_of_cut (beforeComment_commentBehind behind'),
      read_of_cut (beforeComment_commentBehind behind)]
    exact read_closing leads blank last name
  | comment before old mark text ending even behind starts ends =>
    exact read_comment even behind starts ends

end DetectorGeometry.Line
