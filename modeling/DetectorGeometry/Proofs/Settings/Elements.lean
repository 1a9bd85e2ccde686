import DetectorGeometry.Proofs.Settings.Comment
import DetectorGeometry.Settings.Reading

namespace DetectorGeometry.Reading

open Text Line

/-- How an element can be written: in quotes, or bare if it holds no separator and nothing that
starts a comment. -/
inductive Spelled (item : List Char) : List Char → Prop where
  | quoted : Spelled item ('"' :: (item ++ ['"']))
  | bare (plain : ∀ c ∈ item, isSeparator c = false ∧ startsComment c = false) : Spelled item item

def Gap (cs : List Char) : Prop := cs ≠ [] ∧ ∀ c ∈ cs, c = ' ' ∨ c = '\t' ∨ c = ','

instance (cs : List Char) : Decidable (Gap cs) :=
  decidable_of_iff (cs ≠ [] ∧ (cs.all fun c => c == ' ' || (c == '\t' || c == ',')) = true)
    (by simp [Gap])

/-- Texts that list some elements. -/
inductive Listed : List (List Char) → List Char → Prop where
  | nil : Listed [] []
  | one {item cs : List Char} (spelled : Spelled item cs) : Listed [item] cs
  | more {item next cs gap rest : List Char} {items : List (List Char)}
      (spelled : Spelled item cs) (between : Gap gap) (listed : Listed (next :: items) rest) :
      Listed (item :: next :: items) (cs ++ (gap ++ rest))

def Quotable (items : List (List Char)) : Prop := ∀ item ∈ items, item ≠ [] ∧ '"' ∉ item

section Pieces

variable {item cs gap rest : List Char}

theorem pieces_append {quoted : Bool}
    (kept : ∀ c ∈ item, c ≠ '"' ∧ (quoted = true ∨ isSeparator c = false)) :
    pieces quoted (item ++ rest) = (pieces quoted rest).map fun p => (item ++ p.1, p.2) := by
  induction item with
  | nil => simp
  | cons c item ih =>
    obtain ⟨⟨noQuote, inside⟩, kept⟩ := List.forall_mem_cons.mp kept
    have noEnd : ¬ (!quoted && isSeparator c) = true := by
      rcases inside with quoted | noSeparator
      · simp [quoted]
      · simp [noSeparator]
    rw [List.cons_append, pieces, if_neg noQuote, if_neg noEnd, ih kept, Option.map_map]
    rfl

theorem pieces_spelled (rest : List Char) (noQuote : '"' ∉ item) (spelled : Spelled item cs) :
    pieces false (cs ++ rest) = (pieces false rest).map fun p => (item ++ p.1, p.2) := by
  have different : ∀ c ∈ item, c ≠ '"' := fun c member same => noQuote (same ▸ member)
  cases spelled with
  | bare plain => exact pieces_append fun c member => ⟨different c member, .inr (plain c member).1⟩
  | quoted =>
    rw [List.cons_append, List.append_assoc, List.singleton_append, pieces, if_pos rfl,
      Bool.not_false, pieces_append fun c member => ⟨different c member, .inl rfl⟩, pieces,
      if_pos rfl, Bool.not_true]

theorem isSeparator_of_gap (between : Gap gap) :
    ∀ c ∈ gap, c ≠ '"' ∧ isSeparator c = true := by
  intro c member
  rcases between.2 c member with rfl | rfl | rfl <;> decide

theorem pieces_gap (nonempty : gap ≠ []) (separates : ∀ c ∈ gap, c ≠ '"' ∧ isSeparator c = true) :
    pieces false (gap ++ rest) =
      (pieces false rest).map fun p => ([], keepElement p.1 p.2) := by
  induction gap with
  | nil => exact absurd rfl nonempty
  | cons c gap ih =>
    obtain ⟨⟨noQuote, separator⟩, others⟩ := List.forall_mem_cons.mp separates
    rw [List.cons_append, pieces, if_neg noQuote, if_pos (by simp [separator])]
    cases gap with
    | nil => rfl
    | cons d gap =>
      rw [ih (by simp) others, Option.map_map]
      rfl

theorem elements?_listed {items : List (List Char)} (quotable : Quotable items)
    (listed : Listed items cs) : elements? cs = some items := by
  induction listed with
  | nil => rfl
  | @one item cs spelled =>
    obtain ⟨nonempty, noQuote⟩ := quotable item List.mem_cons_self
    have read := pieces_spelled [] noQuote spelled
    rw [List.append_nil] at read
    simp [elements?, read, pieces, keepElement, nonempty]
  | @more item next cs gap rest items spelled between _ ih =>
    obtain ⟨⟨nonempty, noQuote⟩, others⟩ := List.forall_mem_cons.mp quotable
    have others := ih others
    rw [elements?, Option.map_eq_some_iff] at others
    obtain ⟨p, read, first⟩ := others
    rw [elements?, pieces_spelled _ noQuote spelled,
      pieces_gap between.1 (isSeparator_of_gap between), read]
    simp [keepElement, nonempty] at first ⊢
    exact first

end Pieces

section Quotes

variable {item cs : List Char} {items : List (List Char)}

theorem closed_spelled (noQuote : '"' ∉ item) (spelled : Spelled item cs) : Closed cs := by
  cases spelled with
  | quoted => exact closed_quoted noQuote
  | bare plain =>
    refine closed_of_noSigns fun c member => ?_
    have different : c ≠ '"' := fun same => noQuote (same ▸ member)
    simp [isSign, different, (plain c member).2]

theorem closed_gap {gap : List Char} (between : Gap gap) : Closed gap := by
  refine closed_of_noSigns fun c member => ?_
  rcases between.2 c member with rfl | rfl | rfl <;> decide

theorem closed_listed (quotable : Quotable items) (listed : Listed items cs) : Closed cs := by
  induction listed with
  | nil => exact closed_nil
  | one spelled => exact closed_spelled (quotable _ List.mem_cons_self).2 spelled
  | more spelled between _ ih =>
    obtain ⟨⟨_, noQuote⟩, others⟩ := List.forall_mem_cons.mp quotable
    exact (closed_spelled noQuote spelled).append ((closed_gap between).append (ih others))

theorem trimmed_quoted (item : List Char) : Trimmed ('"' :: (item ++ ['"'])) := by
  have quote : Trimmed ['"'] := by decide
  exact quote.append quote (by simp) (by simp) item

theorem trimmed_spelled (nonempty : item ≠ []) (spelled : Spelled item cs) :
    cs ≠ [] ∧ Trimmed cs := by
  cases spelled with
  | quoted => exact ⟨by simp, trimmed_quoted item⟩
  | bare plain =>
    refine ⟨nonempty, Trimmed.of_solid fun c member => ?_⟩
    have noSeparator := (plain c member).1
    rw [isSeparator, Bool.or_eq_false_iff] at noSeparator
    exact noSeparator.1

theorem trimmed_listed (quotable : Quotable items) (listed : Listed items cs) :
    (items ≠ [] → cs ≠ []) ∧ Trimmed cs := by
  induction listed with
  | nil => exact ⟨fun nonempty => absurd rfl nonempty, trimmed_nil⟩
  | one spelled =>
    obtain ⟨nonempty, trimmed⟩ := trimmed_spelled (quotable _ List.mem_cons_self).1 spelled
    exact ⟨fun _ => nonempty, trimmed⟩
  | more spelled _ _ ih =>
    obtain ⟨⟨nonempty, _⟩, others⟩ := List.forall_mem_cons.mp quotable
    obtain ⟨first, firstTrimmed⟩ := trimmed_spelled nonempty spelled
    obtain ⟨rest, restTrimmed⟩ := ih others
    exact ⟨fun _ => by simp [first], firstTrimmed.append restTrimmed first (rest (by simp)) _⟩

theorem oneLine_listed (oneLine : ∀ item ∈ items, '\n' ∉ item) (listed : Listed items cs) :
    '\n' ∉ cs := by
  have spelled_oneLine : ∀ {item cs}, '\n' ∉ item → Spelled item cs → '\n' ∉ cs := by
    intro item cs none spelled
    cases spelled with
    | quoted => simp [none]
    | bare => exact none
  induction listed with
  | nil => simp
  | one spelled => exact spelled_oneLine (oneLine _ List.mem_cons_self) spelled
  | more spelled between _ ih =>
    obtain ⟨first, others⟩ := List.forall_mem_cons.mp oneLine
    rw [List.mem_append, List.mem_append, not_or, not_or]
    refine ⟨spelled_oneLine first spelled, fun inGap => ?_, ih others⟩
    exact absurd (between.2 _ inGap) (by decide)

end Quotes

section Read

variable {quoted : Bool} {cs : List Char}

/-- The scan for elements and the scan for comments keep the same count of quotes. -/
theorem pieces_eq_none : pieces quoted cs = none ↔ quotedAfter quoted cs = true := by
  induction cs generalizing quoted with
  | nil => cases quoted <;> simp [pieces]
  | cons c cs ih =>
    rw [pieces, quotedAfter_cons]
    split
    case isTrue => exact ih
    case isFalse =>
      split
      case isTrue separates =>
        have outside : quoted = false := by simp_all
        rw [Option.map_eq_none_iff, ih, outside]
      case isFalse => rw [Option.map_eq_none_iff, ih]

theorem mem_keepElement {item element : List Char} {others : List (List Char)}
    (member : item ∈ keepElement element others) :
    item = element ∧ element ≠ [] ∨ item ∈ others := by
  rw [keepElement] at member
  split at member
  case isTrue => exact .inr member
  case isFalse nonempty =>
    rcases List.mem_cons.mp member with rfl | member
    · exact .inl ⟨rfl, by simpa using nonempty⟩
    · exact .inr member

theorem quotable_keepElement {element : List Char} {others : List (List Char)}
    (noQuote : '"' ∉ element) (quotable : Quotable others) :
    Quotable (keepElement element others) := by
  intro item member
  rcases mem_keepElement member with ⟨rfl, nonempty⟩ | inOthers
  · exact ⟨nonempty, noQuote⟩
  · exact quotable item inOthers

theorem quotable_of_pieces {p : List Char × List (List Char)} (read : pieces quoted cs = some p) :
    '"' ∉ p.1 ∧ Quotable p.2 := by
  induction cs generalizing quoted p with
  | nil =>
    cases quoted with
    | true => simp [pieces] at read
    | false =>
      cases read
      exact ⟨by simp, by simp [Quotable]⟩
  | cons c cs ih =>
    rw [pieces] at read
    split at read
    case isTrue => exact ih read
    case isFalse noQuote =>
      split at read
      case isTrue =>
        obtain ⟨⟨element, others⟩, rest, rfl⟩ := Option.map_eq_some_iff.mp read
        obtain ⟨first, quotable⟩ := ih rest
        exact ⟨by simp, quotable_keepElement first quotable⟩
      case isFalse =>
        obtain ⟨⟨element, others⟩, rest, rfl⟩ := Option.map_eq_some_iff.mp read
        obtain ⟨first, quotable⟩ := ih rest
        refine ⟨?_, quotable⟩
        rw [List.mem_cons, not_or]
        exact ⟨Ne.symm noQuote, first⟩

theorem quotable_of_elements? {items : List (List Char)} (read : elements? cs = some items) :
    Quotable items := by
  obtain ⟨⟨element, others⟩, pieces, rfl⟩ := Option.map_eq_some_iff.mp read
  obtain ⟨first, quotable⟩ := quotable_of_pieces pieces
  exact quotable_keepElement first quotable

theorem elements?_eq_none : elements? cs = none ↔ cs.count '"' % 2 = 1 := by
  rw [elements?, Option.map_eq_none_iff, pieces_eq_none, quotedAfter_false]

end Read

end DetectorGeometry.Reading
