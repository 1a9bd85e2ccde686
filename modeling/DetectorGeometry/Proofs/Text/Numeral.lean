import Mathlib.Data.List.Induction
import Mathlib.Data.List.TakeWhile
import Mathlib.Data.Nat.Digits.Defs
import DetectorGeometry.Text.Numeral

/-!
The grammar of decimal numerals. The reader cuts a text from the left, while the grammar says of
which parts a numeral is put together; main statement: the reader accepts the numerals of the
grammar, each with the value that its digits give (`Numeral.read?_eq_some`).
-/
namespace DetectorGeometry.Text.Numeral

def value (digits : List Char) : Nat :=
  Nat.ofDigits 10 (digits.reverse.map fun c => c.toNat - '0'.toNat)

theorem digitsValue_eq (digits : List Char) : digitsValue digits = value digits := by
  induction digits using List.reverseRecOn with
  | nil => rfl
  | append_singleton digits last ih =>
    unfold digitsValue value at *
    rw [List.foldl_append, ih, List.reverse_concat, List.map_cons, Nat.ofDigits_cons]
    exact Nat.add_comm ..

def Digits (cs : List Char) : Prop := ∀ c ∈ cs, c.isDigit = true

inductive Sign : List Char → Bool → Prop
  | none : Sign [] false
  | plus : Sign ['+'] false
  | minus : Sign ['-'] true

inductive Fraction : List Char → List Char → Prop
  | none : Fraction [] []
  | point {digits : List Char} : Digits digits → Fraction ('.' :: digits) digits

inductive Power : List Char → Int → Prop
  | none : Power [] 0
  | marked {mark : Char} {sign digits : List Char} {negative : Bool} :
      mark = 'e' ∨ mark = 'E' → Sign sign negative → Digits digits → digits ≠ [] →
      Power (mark :: (sign ++ digits)) (if negative then -(value digits : Int) else value digits)

/-- The texts of a numeral: an optional sign, digits with an optional point, at least one of them
digit, and an optional power of ten. -/
inductive Written : List Char → Numeral → Prop
  | parts {sign whole point fraction power : List Char} {negative : Bool} {exponent : Int} :
      Sign sign negative → Digits whole → Fraction point fraction → whole ++ fraction ≠ [] →
      Power power exponent →
      Written (sign ++ (whole ++ (point ++ power)))
        ⟨negative, value (whole ++ fraction), exponent - fraction.length⟩

def NotFirst (kind : Char → Bool) (cs : List Char) : Prop :=
  ∀ c rest, cs = c :: rest → kind c = false

theorem NotFirst.notDigit {cs : List Char}
    (other : NotFirst (fun c => c.isDigit || c == '.') cs) : NotFirst Char.isDigit cs :=
  fun c rest starts => (Bool.or_eq_false_iff.mp (other c rest starts)).1

theorem Sign.splitSign_append {sign : List Char} {negative : Bool} (signed : Sign sign negative)
    {rest : List Char} (unsigned : NotFirst (fun c => c == '-' || c == '+') rest) :
    splitSign (sign ++ rest) = (negative, rest) := by
  cases signed with
  | plus => rfl
  | minus => rfl
  | none =>
    rw [List.nil_append]
    unfold splitSign
    split
    · cases unsigned _ _ rfl
    · cases unsigned _ _ rfl
    · rfl

theorem sign_splitSign (cs : List Char) :
    ∃ sign, Sign sign (splitSign cs).1 ∧ cs = sign ++ (splitSign cs).2 := by
  unfold splitSign
  split
  · exact ⟨_, .minus, rfl⟩
  · exact ⟨_, .plus, rfl⟩
  · exact ⟨_, .none, rfl⟩

theorem Digits.splitDigits_append {digits : List Char} (isDigits : Digits digits)
    {rest : List Char} (other : NotFirst Char.isDigit rest) :
    splitDigits (digits ++ rest) = (digits, rest) := by
  have stops : rest.takeWhile Char.isDigit = [] ∧ rest.dropWhile Char.isDigit = rest := by
    cases rest with
    | nil => exact ⟨rfl, rfl⟩
    | cons c rest => simp [other c rest rfl]
  unfold splitDigits
  rw [List.takeWhile_append_of_pos isDigits, List.dropWhile_append_of_pos isDigits, stops.1,
    stops.2, List.append_nil]

theorem digits_splitDigits (cs : List Char) :
    Digits (splitDigits cs).1 ∧ cs = (splitDigits cs).1 ++ (splitDigits cs).2 :=
  ⟨fun _ member => List.mem_takeWhile_imp member, List.takeWhile_append_dropWhile.symm⟩

theorem Fraction.splitFraction_append {point fraction : List Char}
    (written : Fraction point fraction) {rest : List Char}
    (other : NotFirst (fun c => c.isDigit || c == '.') rest) :
    splitFraction (point ++ rest) = (fraction, rest) := by
  cases written with
  | point isDigits =>
    exact isDigits.splitDigits_append other.notDigit
  | none =>
    rw [List.nil_append]
    unfold splitFraction
    split
    · cases other _ _ rfl
    · rfl

theorem fraction_splitFraction (cs : List Char) :
    ∃ point, Fraction point (splitFraction cs).1 ∧ cs = point ++ (splitFraction cs).2 := by
  unfold splitFraction
  split
  case h_1 rest =>
    obtain ⟨isDigits, parts⟩ := digits_splitDigits rest
    exact ⟨_, .point isDigits, congrArg _ parts⟩
  case h_2 => exact ⟨_, .none, rfl⟩

theorem isEmpty_and_isEmpty {whole fraction : List Char} :
    (whole.isEmpty && fraction.isEmpty) = true ↔ whole ++ fraction = [] := by
  rw [Bool.and_eq_true, List.isEmpty_iff, List.isEmpty_iff, List.append_eq_nil_iff]

theorem isEmpty_or_not_all {digits : List Char} :
    (digits.isEmpty || !digits.all Char.isDigit) = false ↔ Digits digits ∧ digits ≠ [] := by
  rw [Bool.or_eq_false_iff, Bool.not_eq_false', List.all_eq_true, List.isEmpty_eq_false_iff]
  exact And.comm

theorem Digits.notFirst_sign {digits : List Char} (isDigits : Digits digits) :
    NotFirst (fun c => c == '-' || c == '+') digits := by
  rintro c rest rfl
  have digit := isDigits c List.mem_cons_self
  apply Bool.eq_false_iff.mpr
  intro sign
  rcases (Bool.or_eq_true ..).mp sign with minus | plus
  · cases eq_of_beq minus
    cases digit
  · cases eq_of_beq plus
    cases digit

theorem readExponent?_eq_some {cs : List Char} {exponent : Int} :
    readExponent? cs = some exponent ↔ Power cs exponent := by
  constructor
  · intro read
    unfold readExponent? at read
    split at read
    case h_1 =>
      cases read
      exact .none
    case h_2 mark rest =>
      split at read
      case isFalse => cases read
      case isTrue marks =>
        obtain ⟨sign, signed, parts⟩ := sign_splitSign rest
        cases cut : splitSign rest with
        | mk negative digits =>
          rw [cut] at read signed parts
          dsimp only at read
          split at read
          case isTrue => cases read
          case isFalse whole =>
            obtain ⟨isDigits, some⟩ := isEmpty_or_not_all.mp (Bool.eq_false_iff.mpr whole)
            cases read
            rw [parts, digitsValue_eq]
            exact .marked marks signed isDigits some
  · intro power
    cases power with
    | none => rfl
    | marked marks signed isDigits some =>
      rw [readExponent?, if_pos marks, signed.splitSign_append isDigits.notFirst_sign]
      dsimp only
      rw [isEmpty_or_not_all.mpr ⟨isDigits, some⟩, digitsValue_eq]
      rfl

theorem Power.notFirst {power : List Char} {exponent : Int} (written : Power power exponent) :
    NotFirst (fun c => c.isDigit || c == '.') power := by
  cases written with
  | none => exact nofun
  | marked marks =>
    intro c rest starts
    obtain ⟨rfl, _⟩ := List.cons.inj starts
    rcases marks with rfl | rfl <;> decide

theorem Fraction.notFirst_append {point fraction power : List Char} {exponent : Int}
    (written : Fraction point fraction) (power_written : Power power exponent) :
    NotFirst Char.isDigit (point ++ power) := by
  cases written with
  | none => exact power_written.notFirst.notDigit
  | point =>
    intro c rest starts
    obtain ⟨rfl, _⟩ := List.cons.inj starts
    decide

theorem Digits.notFirst_sign_append {whole point fraction : List Char} (isDigits : Digits whole)
    (written : Fraction point fraction) (some : whole ++ fraction ≠ []) (power : List Char) :
    NotFirst (fun c => c == '-' || c == '+') (whole ++ (point ++ power)) := by
  cases whole with
  | cons digit whole =>
    intro c rest starts
    obtain ⟨rfl, _⟩ := List.cons.inj starts
    exact isDigits.notFirst_sign _ _ rfl
  | nil =>
    cases written with
    | none => exact absurd rfl some
    | point =>
      intro c rest starts
      obtain ⟨rfl, _⟩ := List.cons.inj starts
      decide

/-- The reader accepts the numerals of the grammar and nothing else. -/
theorem read?_eq_some {cs : List Char} {n : Numeral} : read? cs = some n ↔ Written cs n := by
  constructor
  · intro read
    cases cutSign : splitSign cs with
    | mk negative unsigned =>
      cases cutDigits : splitDigits unsigned with
      | mk whole tail =>
        cases cutFraction : splitFraction tail with
        | mk fraction power =>
          have signPart := sign_splitSign cs
          have digitsPart := digits_splitDigits unsigned
          have fractionPart := fraction_splitFraction tail
          rw [cutSign] at signPart
          rw [cutDigits] at digitsPart
          rw [cutFraction] at fractionPart
          obtain ⟨sign, signed, rfl⟩ := signPart
          obtain ⟨isDigits, rfl⟩ := digitsPart
          obtain ⟨point, written, rfl⟩ := fractionPart
          simp only [read?, cutSign, cutDigits, cutFraction] at read
          split at read
          case isTrue => cases read
          case isFalse some =>
            obtain ⟨exponent, readPower, rfl⟩ := Option.map_eq_some_iff.mp read
            rw [digitsValue_eq]
            exact .parts signed isDigits written (mt isEmpty_and_isEmpty.mpr some)
              (readExponent?_eq_some.mp readPower)
  · intro written
    cases written with
    | parts signed isDigits written some power =>
      simp only [read?, signed.splitSign_append (isDigits.notFirst_sign_append written some _),
        isDigits.splitDigits_append (written.notFirst_append power),
        written.splitFraction_append power.notFirst, readExponent?_eq_some.mpr power]
      rw [if_neg (mt isEmpty_and_isEmpty.mp some), digitsValue_eq]
      rfl

end DetectorGeometry.Text.Numeral
