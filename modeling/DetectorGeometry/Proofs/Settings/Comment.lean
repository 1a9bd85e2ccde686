import DetectorGeometry.Proofs.Text.Trimming
import DetectorGeometry.Settings.Line

/-!
Comments and quotes on a line. A line is plain if no comment starts on it, which is said by
counting double quotes (`Line.Plain`) and agrees with cutting comments off (`Line.plain_iff`). Only
quotes and the two characters that start comments matter for this, so that blanks can come and go
(`Line.plain_congr`). Parts that leave no quote open can be put together (`Line.Closed.append`).
-/
namespace DetectorGeometry

/-- Whether a text ends inside quotes; `quoted` says whether it starts there. -/
def Text.quotedAfter (quoted : Bool) (cs : List Char) : Bool :=
  quoted != (cs.count '"' % 2 == 1)

namespace Text

@[simp] theorem quotedAfter_nil (quoted : Bool) : quotedAfter quoted [] = quoted := by
  simp [quotedAfter]

theorem quotedAfter_cons (quoted : Bool) (c : Char) (cs : List Char) :
    quotedAfter quoted (c :: cs) = quotedAfter (if c = '"' then !quoted else quoted) cs := by
  unfold quotedAfter
  by_cases quote : c = '"'
  · subst quote
    rw [List.count_cons_self, if_pos rfl]
    rcases Nat.mod_two_eq_zero_or_one (cs.count '"') with even | odd
    · have next : (cs.count '"' + 1) % 2 = 1 := by omega
      rw [even, next]
      cases quoted <;> rfl
    · have next : (cs.count '"' + 1) % 2 = 0 := by omega
      rw [odd, next]
      cases quoted <;> rfl
  · rw [List.count_cons_of_ne quote, if_neg quote]

theorem quotedAfter_append (quoted : Bool) (cs ds : List Char) :
    quotedAfter quoted (cs ++ ds) = quotedAfter (quotedAfter quoted cs) ds := by
  induction cs generalizing quoted with
  | nil => simp
  | cons c cs ih => rw [List.cons_append, quotedAfter_cons, ih, quotedAfter_cons]

theorem quotedAfter_of_notMem {cs : List Char} (absent : '"' ∉ cs) (quoted : Bool) :
    quotedAfter quoted cs = quoted := by
  simp [quotedAfter, List.count_eq_zero.mpr absent]

theorem quotedAfter_false {cs : List Char} :
    quotedAfter false cs = true ↔ cs.count '"' % 2 = 1 := by
  simp [quotedAfter]

end Text

namespace Line

open Text

/-- No comment starts on the line: whatever could start one has an odd number of double quotes in
front of it. -/
def Plain (cs : List Char) : Prop :=
  ∀ before c after, cs = before ++ c :: after → startsComment c = true →
    before.count '"' % 2 = 1

theorem beforeComment_eq_self {quoted : Bool} {cs : List Char} :
    beforeComment quoted cs = cs ↔
      ∀ before c after, cs = before ++ c :: after → startsComment c = true →
        quotedAfter quoted before = true := by
  induction cs generalizing quoted with
  | nil => simp [beforeComment]
  | cons b rest ih =>
    rw [beforeComment]
    constructor
    · intro same before c after parts starts
      split at same
      case isTrue => cases same
      case isFalse noStart =>
        cases before with
        | nil =>
          cases parts
          simpa [starts] using noStart
        | cons _ before =>
          cases parts
          rw [quotedAfter_cons]
          exact ih.mp (List.cons.inj same).2 before c after rfl starts
    · intro quotedAt
      have noStart : ¬ (!quoted && startsComment b) = true := by
        intro start
        obtain ⟨outside, starts⟩ := Bool.and_eq_true_iff.mp start
        have inside := quotedAt [] b rest rfl starts
        simp_all
      rw [if_neg noStart]
      refine congrArg (b :: ·) (ih.mpr fun before c after parts starts => ?_)
      rw [← quotedAfter_cons]
      exact quotedAt (b :: before) c after (by rw [parts, List.cons_append]) starts

theorem plain_iff {cs : List Char} : Plain cs ↔ beforeComment false cs = cs := by
  simp only [beforeComment_eq_self, quotedAfter_false, Plain]

instance (cs : List Char) : Decidable (Plain cs) := decidable_of_iff _ plain_iff.symm

theorem beforeComment_append {quoted : Bool} {cs : List Char}
    (plain : beforeComment quoted cs = cs) (ds : List Char) :
    beforeComment quoted (cs ++ ds) = cs ++ beforeComment (quotedAfter quoted cs) ds := by
  induction cs generalizing quoted with
  | nil => simp
  | cons c cs ih =>
    rw [beforeComment] at plain
    split at plain
    case isTrue => cases plain
    case isFalse noStart =>
      rw [List.cons_append, beforeComment, if_neg noStart, ih (List.cons.inj plain).2,
        quotedAfter_cons, List.cons_append]

theorem beforeComment_append_of_ne {quoted : Bool} {cs : List Char}
    (commented : beforeComment quoted cs ≠ cs) (ds : List Char) :
    beforeComment quoted (cs ++ ds) = beforeComment quoted cs := by
  induction cs generalizing quoted with
  | nil => exact absurd rfl commented
  | cons c cs ih =>
    rw [List.cons_append, beforeComment, beforeComment]
    rw [beforeComment] at commented
    split
    case isTrue => rfl
    case isFalse noStart =>
      rw [if_neg noStart] at commented
      exact congrArg (c :: ·) (ih fun same => commented (congrArg (c :: ·) same))

theorem beforeComment_beforeComment (quoted : Bool) (cs : List Char) :
    beforeComment quoted (beforeComment quoted cs) = beforeComment quoted cs := by
  induction cs generalizing quoted with
  | nil => rfl
  | cons c cs ih =>
    rw [beforeComment]
    split
    case isTrue => rfl
    case isFalse noStart => rw [beforeComment, if_neg noStart, ih]

theorem plain_beforeComment (cs : List Char) : Plain (beforeComment false cs) :=
  plain_iff.mpr (beforeComment_beforeComment false cs)

theorem mem_of_mem_beforeComment {quoted : Bool} {cs : List Char} {c : Char}
    (member : c ∈ beforeComment quoted cs) : c ∈ cs := by
  induction cs generalizing quoted with
  | nil => exact member
  | cons b rest ih =>
    rw [beforeComment] at member
    split at member
    case isTrue => cases member
    case isFalse =>
      rcases List.mem_cons.mp member with rfl | member
      · exact List.mem_cons_self
      · exact List.mem_cons_of_mem _ (ih member)

def isSign (c : Char) : Bool := c == '"' || startsComment c

def signs (cs : List Char) : List Char := cs.filter isSign

theorem signs_append (cs ds : List Char) : signs (cs ++ ds) = signs cs ++ signs ds :=
  List.filter_append ..

theorem signs_eq_nil {cs : List Char} (none : ∀ c ∈ cs, isSign c = false) : signs cs = [] :=
  List.filter_eq_nil_iff.mpr fun c member => by simp [none c member]

theorem signs_cons_of_not {c : Char} (noSign : isSign c = false) (cs : List Char) :
    signs (c :: cs) = signs cs :=
  List.filter_cons_of_neg (by simp [noSign])

theorem isSign_of_isBlank {c : Char} (blank : isBlank c = true) : isSign c = false := by
  cases sign : isSign c with
  | false => rfl
  | true =>
    simp only [isSign, startsComment, Bool.or_eq_true, beq_iff_eq] at sign
    rcases sign with rfl | rfl | rfl <;> exact absurd blank (by decide)

theorem signs_trim (cs : List Char) : signs (trim cs) = signs cs := by
  obtain ⟨front, back, blank, blank', parts⟩ := exists_trim cs
  have noFront : signs front = [] := signs_eq_nil fun c member => isSign_of_isBlank (blank c member)
  have noBack : signs back = [] := signs_eq_nil fun c member => isSign_of_isBlank (blank' c member)
  conv => rhs; rw [parts, signs_append, signs_append, noFront, noBack]
  simp

theorem beforeComment_cons_of_not {c : Char} (noSign : isSign c = false) (quoted : Bool)
    (cs : List Char) : beforeComment quoted (c :: cs) = c :: beforeComment quoted cs := by
  obtain ⟨noQuote, noStart⟩ : c ≠ '"' ∧ startsComment c = false := by
    simpa [isSign] using noSign
  rw [beforeComment, noStart, if_neg (by simp), if_neg noQuote]

theorem beforeComment_signs {quoted : Bool} {cs : List Char} :
    beforeComment quoted (signs cs) = signs cs ↔ beforeComment quoted cs = cs := by
  induction cs generalizing quoted with
  | nil => rfl
  | cons c cs ih =>
    cases sign : isSign c with
    | true =>
      have kept : signs (c :: cs) = c :: signs cs := List.filter_cons_of_pos sign
      rw [kept, beforeComment, beforeComment]
      split
      case isTrue => simp
      case isFalse => simp [ih]
    | false =>
      rw [signs_cons_of_not sign, ih, beforeComment_cons_of_not sign, List.cons.injEq]
      simp

theorem plain_congr {cs ds : List Char} (same : signs cs = signs ds) : Plain cs ↔ Plain ds := by
  rw [plain_iff, plain_iff, ← beforeComment_signs, same, beforeComment_signs]

theorem plain_of_signs_eq_nil {cs : List Char} (none : signs cs = []) : Plain cs := by
  have same : signs cs = signs [] := none
  exact (plain_congr same).mpr (plain_iff.mpr rfl)

/-- A part of a line in which no comment starts and which leaves no quote open. -/
structure Closed (cs : List Char) : Prop where
  uncommented : beforeComment false cs = cs
  unquoted : quotedAfter false cs = false

theorem closed_nil : Closed [] := ⟨rfl, rfl⟩

theorem closed_of_noSigns {cs : List Char} (none : ∀ c ∈ cs, isSign c = false) : Closed cs := by
  refine ⟨plain_iff.mp (plain_of_signs_eq_nil (signs_eq_nil none)), quotedAfter_of_notMem ?_ false⟩
  intro member
  exact absurd (none '"' member) (by decide)

theorem Closed.beforeComment_append {cs : List Char} (closed : Closed cs) (ds : List Char) :
    beforeComment false (cs ++ ds) = cs ++ beforeComment false ds := by
  rw [Line.beforeComment_append closed.uncommented, closed.unquoted]

theorem Closed.append {cs ds : List Char} (closed : Closed cs) (closed' : Closed ds) :
    Closed (cs ++ ds) := by
  refine ⟨?_, ?_⟩
  · rw [closed.beforeComment_append, closed'.uncommented]
  · rw [quotedAfter_append, closed.unquoted, closed'.unquoted]

theorem closed_quoted {cs : List Char} (noQuote : '"' ∉ cs) : Closed ('"' :: (cs ++ ['"'])) := by
  have inside : beforeComment true cs = cs := by
    refine beforeComment_eq_self.mpr fun before c after parts _ => quotedAfter_of_notMem ?_ true
    intro member
    exact noQuote (parts ▸ List.mem_append_left _ member)
  constructor
  · rw [beforeComment, if_neg (by decide), if_pos rfl, Bool.not_false,
      Line.beforeComment_append inside, quotedAfter_of_notMem noQuote]
    rfl
  · rw [quotedAfter_cons, if_pos rfl, quotedAfter_append, Bool.not_false,
      quotedAfter_of_notMem noQuote]
    rfl

end Line

end DetectorGeometry
