import DetectorGeometry.Proofs.Scalar.NotANumber
import DetectorGeometry.Proofs.Scalar.Exact
import DetectorGeometry.Proofs.Text.Encoded
import DetectorGeometry.Proofs.Text.Numeral
import DetectorGeometry.Settings.Quantity

namespace DetectorGeometry

theorem MeasureUnit.ofSymbol?_eq_some {s : String} {u : MeasureUnit} :
    ofSymbol? s = some u ↔ u.symbol = s := by
  constructor
  · intro found
    exact eq_of_beq (List.find?_some found :)
  · rintro rfl
    exact ofSymbol?_symbol u

namespace Quantity

open Text Numeral

def ending : Option MeasureUnit → List Char
  | none => []
  | some u => u.symbol.toList

/-- A text that is a numeral with a unit or nothing behind it. -/
structure Composed (text : String) (number : List Char) (n : Numeral)
    (unit : Option MeasureUnit) : Prop where
  written : Written number n
  parts : text.toList = number ++ ending unit

theorem splitUnit_cons {c : Char} (plain : c.isAlpha = false) (atStart : Bool) (rest : List Char) :
    splitUnit atStart (c :: rest) =
      (c :: (splitUnit false rest).1, (splitUnit false rest).2) := by
  simp [splitUnit, plain]

theorem splitUnit_plain_append {cs : List Char} (some : cs ≠ [])
    (plain : ∀ c ∈ cs, c.isAlpha = false) (atStart : Bool) (rest : List Char) :
    splitUnit atStart (cs ++ rest) =
      (cs ++ (splitUnit false rest).1, (splitUnit false rest).2) := by
  induction cs generalizing atStart with
  | nil => exact absurd rfl some
  | cons c others ih =>
    obtain ⟨first, plain⟩ := List.forall_mem_cons.mp plain
    rw [List.cons_append, splitUnit_cons first]
    cases others with
    | nil => rfl
    | cons =>
      rw [ih (List.cons_ne_nil _ _) plain]
      rfl

theorem splitUnit_ending (atStart : Bool) (unit : Option MeasureUnit) :
    splitUnit atStart (ending unit) = ([], ending unit) := by
  cases unit with
  | none => rfl
  | some u => cases u <;> cases atStart <;> rfl

theorem isAlpha_eq_false {c : Char} :
    c.isAlpha = false ↔ ¬(65 ≤ c.toNat ∧ c.toNat ≤ 90 ∨ 97 ≤ c.toNat ∧ c.toNat ≤ 122) := by
  rw [← isAlpha_iff, Bool.not_eq_true]

theorem isAlpha_of_isDigit {c : Char} (digit : c.isDigit = true) : c.isAlpha = false := by
  have range := isDigit_iff.mp digit
  exact isAlpha_eq_false.mpr (by omega)

theorem isAlpha_of_mem_digits {digits : List Char} (isDigits : Digits digits) :
    ∀ c ∈ digits, c.isAlpha = false :=
  fun c member => isAlpha_of_isDigit (isDigits c member)

theorem isAlpha_of_mem_sign {sign : List Char} {negative : Bool} (signed : Sign sign negative) :
    ∀ c ∈ sign, c.isAlpha = false := by
  cases signed with
  | none => exact nofun
  | plus => exact List.forall_mem_singleton.mpr rfl
  | minus => exact List.forall_mem_singleton.mpr rfl

theorem isAlpha_of_mem_fraction {point fraction : List Char} (written : Fraction point fraction) :
    ∀ c ∈ point, c.isAlpha = false := by
  cases written with
  | none => exact nofun
  | point isDigits =>
    exact List.forall_mem_cons.mpr ⟨by decide, isAlpha_of_mem_digits isDigits⟩

theorem marksPower_append {mark : Char} {sign digits : List Char} {negative : Bool}
    (marks : mark = 'e' ∨ mark = 'E') (signed : Sign sign negative) (isDigits : Digits digits)
    (some : digits ≠ []) (rest : List Char) : marksPower mark (sign ++ digits ++ rest) = true := by
  have letter : (mark == 'e' || mark == 'E') = true := by simpa using marks
  unfold marksPower
  rw [letter, Bool.true_and]
  cases signed with
  | plus => rfl
  | minus => rfl
  | none =>
    cases digits with
    | nil => exact absurd rfl some
    | cons digit others =>
      have first := isDigits digit List.mem_cons_self
      simp [first]

theorem splitUnit_power_append {power : List Char} {exponent : Int} (written : Power power exponent)
    (unit : Option MeasureUnit) :
    splitUnit false (power ++ ending unit) = (power, ending unit) := by
  cases written with
  | none => exact splitUnit_ending false unit
  | @marked mark sign digits negative marks signed isDigits some =>
    have plain : ∀ c ∈ sign ++ digits, c.isAlpha = false :=
      List.forall_mem_append.mpr ⟨isAlpha_of_mem_sign signed, isAlpha_of_mem_digits isDigits⟩
    have nonempty : sign ++ digits ≠ [] := List.append_ne_nil_of_right_ne_nil _ some
    rw [List.cons_append, splitUnit, marksPower_append marks signed isDigits some,
      splitUnit_plain_append nonempty plain, splitUnit_ending]
    simp

/-- The scan for the unit passes over a whole numeral and stops behind it. -/
theorem splitUnit_written {number : List Char} {n : Numeral} (written : Written number n)
    (unit : Option MeasureUnit) :
    splitUnit true (number ++ ending unit) = (number, ending unit) := by
  cases written with
  | @parts sign whole point fraction power _ _ signed isDigits fractional some powered =>
    have plain : ∀ c ∈ sign ++ (whole ++ point), c.isAlpha = false :=
      List.forall_mem_append.mpr ⟨isAlpha_of_mem_sign signed, List.forall_mem_append.mpr
        ⟨isAlpha_of_mem_digits isDigits, isAlpha_of_mem_fraction fractional⟩⟩
    have nonempty : sign ++ (whole ++ point) ≠ [] := by
      intro empty
      obtain ⟨-, noWhole, noPoint⟩ : sign = [] ∧ whole = [] ∧ point = [] := by simpa using empty
      cases fractional with
      | none => exact some (by rw [noWhole]; rfl)
      | point => cases noPoint
    have parts : sign ++ (whole ++ (point ++ power)) ++ ending unit =
        sign ++ (whole ++ point) ++ (power ++ ending unit) := by
      simp only [List.append_assoc]
    rw [parts, splitUnit_plain_append nonempty plain, splitUnit_power_append powered]
    simp only [List.append_assoc]

section Reading

variable {α : Type} [Scalar α]

def scaled (n : Numeral) : Option MeasureUnit → α
  | none => Scalar.ofNumeral n
  | some u => Scalar.ofNumeral n * u.factor

theorem Composed.splitUnit_eq {text : String} {number : List Char} {n : Numeral}
    {unit : Option MeasureUnit} (composed : Composed text number n unit) :
    splitUnit true text.toList = (number, ending unit) := by
  rw [composed.parts, splitUnit_written composed.written]

theorem read_composed {text : String} {number : List Char} {n : Numeral}
    {unit : Option MeasureUnit} (composed : Composed text number n unit) :
    read text = .ok (scaled (α := α) n unit) := by
  unfold read
  rw [composed.splitUnit_eq]
  dsimp only
  rw [read?_eq_some.mpr composed.written]
  cases unit with
  | none => rfl
  | some u =>
    have nonempty : (ending (some u)).isEmpty = false := by cases u <;> rfl
    dsimp only
    rw [if_neg (by rw [nonempty]; exact Bool.false_ne_true), ending, String.ofList_toList,
      MeasureUnit.ofSymbol?_symbol]
    rfl

theorem composed_of_read {text : String} {v : α} (accepted : read text = .ok v) :
    ∃ number n unit, Composed text number n unit ∧ v = scaled n unit := by
  have parts := splitUnit_append true text.toList
  unfold read at accepted
  cases cut : splitUnit true text.toList with
  | mk number unit =>
    rw [cut] at accepted parts
    dsimp only at accepted parts
    split at accepted
    case h_1 => cases accepted
    case h_2 n isNumeral =>
      have written := read?_eq_some.mp isNumeral
      split at accepted
      case isTrue none =>
        cases accepted
        rw [List.isEmpty_iff] at none
        exact ⟨number, n, .none, ⟨written, by rw [← parts, none]; rfl⟩, rfl⟩
      case isFalse =>
        split at accepted
        case h_1 => cases accepted
        case h_2 u known =>
          cases accepted
          have symbol : u.symbol.toList = unit := by
            rw [MeasureUnit.ofSymbol?_eq_some.mp known, String.toList_ofList]
          exact ⟨number, n, some u, ⟨written, by rw [← parts, ending, symbol]⟩, rfl⟩

theorem read_eq_ok {text : String} {v : α} :
    read text = .ok v ↔
      ∃ number n unit, Composed text number n unit ∧ v = scaled n unit := by
  refine ⟨composed_of_read, ?_⟩
  rintro ⟨number, n, unit, composed, rfl⟩
  exact read_composed composed

end Reading

theorem ending_injective {unit other : Option MeasureUnit} (same : ending unit = ending other) :
    unit = other := by
  have nonempty (u : MeasureUnit) : u.symbol.toList ≠ [] := by cases u <;> decide
  match unit, other with
  | none, none => rfl
  | none, some u => exact absurd same.symm (nonempty u)
  | some u, none => exact absurd same (nonempty u)
  | some u, some v =>
    have symbols : u.symbol = v.symbol := String.toList_injective same
    have found := MeasureUnit.ofSymbol?_symbol u
    rw [symbols, MeasureUnit.ofSymbol?_symbol] at found
    exact found.symm

theorem Composed.unique {text : String} {number number' : List Char} {n n' : Numeral}
    {unit unit' : Option MeasureUnit} (composed : Composed text number n unit)
    (composed' : Composed text number' n' unit') : number = number' ∧ n = n' ∧ unit = unit' := by
  obtain ⟨rfl, same⟩ := Prod.mk.inj (composed.splitUnit_eq.symm.trans composed'.splitUnit_eq)
  have value := read?_eq_some.mpr composed.written
  have value' := read?_eq_some.mpr composed'.written
  exact ⟨rfl, Option.some.inj (value.symm.trans value'), ending_injective same⟩

/-- Words that number formats have for infinity and for what is no number. -/
def words : List String := ["inf", "infinity", "nan"]

structure Spelled (sign word : List Char) : Prop where
  signed : ∃ negative, Sign sign negative
  isWord : String.ofList (word.map Char.toLower) ∈ words

theorem letter_of_toLower {c : Char} (letter : c.toLower = 'i' ∨ c.toLower = 'n') :
    c.isAlpha = true ∧ c ≠ 'e' ∧ c ≠ 'E' := by
  refine ⟨?_, ?_, ?_⟩
  · unfold Char.toLower at letter
    split at letter
    case isTrue upper =>
      have isUpper : c.isUpper = true := decide_eq_true upper
      rw [Char.isAlpha, isUpper, Bool.true_or]
    case isFalse => rcases letter with rfl | rfl <;> decide
  · rintro rfl
    exact absurd letter (by decide)
  · rintro rfl
    exact absurd letter (by decide)

theorem Spelled.exists_cons {sign word : List Char} (spelled : Spelled sign word) :
    ∃ c rest, word = c :: rest ∧ c.isAlpha = true ∧ c ≠ 'e' ∧ c ≠ 'E' := by
  obtain ⟨-, isWord⟩ := spelled
  cases word with
  | nil => exact absurd isWord (by decide)
  | cons c rest =>
    have first : ∀ w ∈ words, w.toList.head? = some 'i' ∨ w.toList.head? = some 'n' := by decide
    have letter := first _ isWord
    rw [String.toList_ofList] at letter
    simp only [List.map_cons, List.head?_cons, Option.some.injEq] at letter
    exact ⟨c, rest, rfl, letter_of_toLower letter⟩

theorem splitUnit_letter {c : Char} (letter : c.isAlpha = true ∧ c ≠ 'e' ∧ c ≠ 'E') (atStart : Bool)
    (rest : List Char) : splitUnit atStart (c :: rest) = ([], c :: rest) := by
  obtain ⟨isAlpha, notMark, notMark'⟩ := letter
  simp [splitUnit, marksPower, isAlpha, notMark, notMark']

theorem Spelled.rejected {α : Type} [Scalar α] {sign word : List Char}
    (spelled : Spelled sign word) :
    read (α := α) (String.ofList (sign ++ word)) = .error (.notNumber (String.ofList sign)) := by
  obtain ⟨c, rest, rfl, letter⟩ := spelled.exists_cons
  obtain ⟨⟨negative, signed⟩, -⟩ := spelled
  have cut : splitUnit true (sign ++ c :: rest) = (sign, c :: rest) := by
    cases signed with
    | none => exact splitUnit_letter letter true rest
    | plus => rw [List.singleton_append, splitUnit_cons (by decide), splitUnit_letter letter]
    | minus => rw [List.singleton_append, splitUnit_cons (by decide), splitUnit_letter letter]
  have noDigit : read? sign = none := by cases signed <;> rfl
  unfold read
  rw [String.toList_ofList, cut]
  dsimp only
  rw [noDigit]

theorem letter_of_mem_splitUnit {atStart : Bool} {cs : List Char} {c : Char}
    (member : c ∈ (splitUnit atStart cs).1) (letter : c.isAlpha = true) : c = 'e' ∨ c = 'E' := by
  induction cs generalizing atStart with
  | nil => cases member
  | cons first rest ih =>
    rw [splitUnit] at member
    split at member
    case isTrue => cases member
    case isFalse passed =>
      rcases List.mem_cons.mp member with rfl | later
      · have marks : marksPower c rest = true := by
          rw [letter, Bool.true_and, Bool.or_eq_true, not_or] at passed
          simpa using passed.2
        have mark := (Bool.and_eq_true_iff.mp marks).1
        simpa using mark
      · exact ih later

theorem Spelled.notNumber {sign word : List Char} (spelled : Spelled sign word) (atStart : Bool)
    (cs : List Char) : (splitUnit atStart cs).1 ≠ sign ++ word := by
  intro same
  obtain ⟨c, rest, rfl, letter, notMark, notMark'⟩ := spelled.exists_cons
  have member : c ∈ (splitUnit atStart cs).1 := by
    rw [same]
    exact List.mem_append_right _ List.mem_cons_self
  exact (letter_of_mem_splitUnit member letter).elim notMark notMark'

def widened (bytes : List UInt8) : List Char := bytes.map Char.ofUInt8

/-- Where the unit starts, found by a scan over the bytes of a text. -/
def unitStart (text : String) : Nat :=
  (splitUnit true (widened text.toUTF8.data.toList)).1.length

theorem toNat_ofUInt8 (b : UInt8) : (Char.ofUInt8 b).toNat = b.toNat := rfl

theorem widened_encode_ascii {c : Char} (ascii : c.toNat < 128) (cs : List Char) :
    widened (encoded (c :: cs)) = c :: widened (encoded cs) := by
  have same : Char.ofUInt8 (UInt8.ofNat c.toNat) = c := by
    apply Char.toNat_inj.mp
    rw [toNat_ofUInt8, UInt8.toNat_ofNat']
    omega
  rw [encoded_cons, encode_ascii ascii, widened, List.singleton_append, List.map_cons, same]
  rfl

theorem le_of_mem_widened {c : Char} (other : 128 ≤ c.toNat) :
    ∀ d ∈ widened (String.utf8EncodeChar c), 128 ≤ d.toNat := by
  intro d member
  obtain ⟨b, inCode, rfl⟩ := List.mem_map.mp member
  exact le_of_mem_encode other b inCode

theorem isAlpha_of_le {c : Char} (other : 128 ≤ c.toNat) : c.isAlpha = false :=
  isAlpha_eq_false.mpr (by omega)

theorem marksPower_of_le {next : Char} (other : 128 ≤ next.toNat) (c : Char) (rest : List Char) :
    marksPower c (next :: rest) = false := by
  have notDigit : next.isDigit = false := by
    apply Bool.eq_false_iff.mpr
    intro digit
    have range := isDigit_iff.mp digit
    omega
  have notMinus : next ≠ '-' := by
    rintro rfl
    exact absurd other (by decide)
  have notPlus : next ≠ '+' := by
    rintro rfl
    exact absurd other (by decide)
  simp [marksPower, notDigit, notMinus, notPlus]

theorem marksPower_widened (c : Char) (cs : List Char) :
    marksPower c (widened (encoded cs)) = marksPower c cs := by
  cases cs with
  | nil => rfl
  | cons next rest =>
    rcases Nat.lt_or_ge next.toNat 128 with ascii | other
    · rw [widened_encode_ascii ascii]
      rfl
    · cases code : String.utf8EncodeChar next with
      | nil => exact absurd code String.utf8EncodeChar_ne_nil
      | cons b bytes =>
        have above : 128 ≤ (Char.ofUInt8 b).toNat := by
          apply le_of_mem_widened other
          rw [code]
          exact List.mem_cons_self
        rw [encoded_cons, code, marksPower_of_le other]
        exact marksPower_of_le above ..

theorem splitUnit_widened (atStart : Bool) (cs : List Char) :
    splitUnit atStart (widened (encoded cs)) =
      (widened (encoded (splitUnit atStart cs).1), widened (encoded (splitUnit atStart cs).2)) := by
  induction cs generalizing atStart with
  | nil => rfl
  | cons c rest ih =>
    rcases Nat.lt_or_ge c.toNat 128 with ascii | other
    · rw [widened_encode_ascii ascii, splitUnit, splitUnit, marksPower_widened, ih]
      split
      case isTrue => rw [← widened_encode_ascii ascii]; rfl
      case isFalse =>
        dsimp only
        rw [widened_encode_ascii ascii]
    · have plain : ∀ d ∈ widened (String.utf8EncodeChar c), d.isAlpha = false :=
        fun d member => isAlpha_of_le (le_of_mem_widened other d member)
      have some : widened (String.utf8EncodeChar c) ≠ [] :=
        mt List.map_eq_nil_iff.mp String.utf8EncodeChar_ne_nil
      have parts : widened (encoded (c :: rest)) =
          widened (String.utf8EncodeChar c) ++ widened (encoded rest) := by
        rw [encoded_cons]
        exact List.map_append
      rw [parts, splitUnit_plain_append some plain, ih, splitUnit_cons (isAlpha_of_le other),
        encoded_cons]
      exact congrArg (·, _) List.map_append.symm

theorem unitStart_eq (text : String) :
    unitStart text = (String.ofList (splitUnit true text.toList).1).utf8ByteSize := by
  rw [unitStart, toList_toUTF8, splitUnit_widened, utf8ByteSize_ofList]
  exact List.length_map ..

/-- The unit starts at a character, whatever characters there are. -/
theorem isValid_unitStart (text : String) : (⟨unitStart text⟩ : String.Pos.Raw).IsValid text := by
  have joined := congrArg String.ofList (splitUnit_append true text.toList)
  rw [unitStart_eq]
  cases cut : splitUnit true text.toList with
  | mk number unit =>
    rw [cut, String.ofList_append, String.ofList_toList] at joined
    dsimp only at joined ⊢
    rw [← joined]
    exact (String.Pos.Raw.isValid_of_eq_rawEndPos rfl).append_right _

theorem ordinary_factor (u : MeasureUnit) :
    Double.isOrdinary (u.factor : Float).toModel.unpack = true := by
  cases u <;> decide +kernel

theorem isNaN_scaled (n : Numeral) (unit : Option MeasureUnit) :
    (scaled n unit : Float).isNaN = false := by
  cases unit with
  | none => exact Double.isNaN_ofNumeral n
  | some u => exact Double.isNaN_mul (Double.isNaN_ofNumeral n) (ordinary_factor u)

theorem isNaN_of_read {text : String} {v : Float} (accepted : read text = .ok v) :
    v.isNaN = false := by
  obtain ⟨_, n, unit, _, rfl⟩ := composed_of_read accepted
  exact isNaN_scaled n unit

/-- What a numeral stands for. -/
def amount {α : Type} [ExactScalar α] (n : Numeral) : α :=
  (if n.negative then -1 else 1) * n.mantissa * 10 ^ n.exponent

def worth {α : Type} [ExactScalar α] : MeasureUnit → α
  | .nanometre => 1 / 1000000
  | .micrometre => 1 / 1000
  | .millimetre => 1
  | .centimetre => 10
  | .metre => 1000
  | .radian => 1
  | .milliradian => 1 / 1000
  | .degree => Scalar.pi / 180
  | .tesla => 1 / 1000
  | .millitesla => 1 / 1000000

def rounded (n : Numeral) : Float :=
  let size := Float.ofScientific n.mantissa (n.exponent < 0) n.exponent.natAbs
  if n.negative then -size else size

def roundedWorth : MeasureUnit → Float
  | .nanometre => 1e-6
  | .micrometre => 1e-3
  | .millimetre => 1.0
  | .centimetre => 10.0
  | .metre => 1e3
  | .radian => 1.0
  | .milliradian => 1e-3
  | .degree => Scalar.pi / 180.0
  | .tesla => 1e-3
  | .millitesla => 1e-3 * 1e-3

section Exact

variable {α : Type} [ExactScalar α]

theorem ofNumeral_eq (n : Numeral) : (Scalar.ofNumeral n : α) = amount n := by
  rw [Scalar.ofNumeral, amount, Scalar.decimal_eq]
  split
  · rw [neg_one_mul, neg_mul]
  · rw [one_mul]

theorem factor_eq (u : MeasureUnit) : (u.factor : α) = worth u := by
  cases u <;> simp only [MeasureUnit.factor, worth, Scalar.decimal_eq] <;> norm_num

theorem scaled_eq (n : Numeral) (unit : Option MeasureUnit) :
    scaled n unit = (amount n * unit.elim 1 worth : α) := by
  cases unit with
  | none => rw [scaled, ofNumeral_eq, Option.elim_none, mul_one]
  | some u => rw [scaled, ofNumeral_eq, factor_eq, Option.elim_some]

end Exact

theorem scaled_eq_rounded (n : Numeral) (unit : Option MeasureUnit) :
    scaled n unit = unit.elim (rounded n) (rounded n * roundedWorth ·) := by
  cases unit with
  | none => rfl
  | some u => cases u <;> rfl

/-- A text reads as a quantity exactly if it is a numeral with a known unit or nothing behind it,
and then it is what the numeral stands for, times what the unit stands for. -/
theorem accepted_texts {α : Type} [Scalar α] :
    (∀ (text : String) (v : α), read text = .ok v ↔
      ∃ number n unit, Composed text number n unit ∧ v = scaled n unit) ∧
    (∀ (β : Type) [ExactScalar β] (text : String) (v : β), read text = .ok v ↔
      ∃ number n unit, Composed text number n unit ∧ v = amount n * unit.elim 1 worth) ∧
    (∀ (text : String) (v : Float), read text = .ok v ↔
      ∃ number n unit, Composed text number n unit ∧
        v = unit.elim (rounded n) (rounded n * roundedWorth ·)) ∧
    (∀ text number number' n n' unit unit', Composed text number n unit →
      Composed text number' n' unit' → number = number' ∧ n = n' ∧ unit = unit') ∧
    (∀ sign word, Spelled sign word →
      read (α := α) (String.ofList (sign ++ word)) = .error (.notNumber (String.ofList sign)) ∧
      ∀ text : String, (splitUnit true text.toList).1 ≠ sign ++ word) ∧
    (∀ (text : String) (v : Float), read text = .ok v → v.isNaN = false) ∧
    ∀ text, (⟨unitStart text⟩ : String.Pos.Raw).IsValid text ∧
      unitStart text = (String.ofList (splitUnit true text.toList).1).utf8ByteSize := by
  refine ⟨fun text v => read_eq_ok, ?_, ?_, ?_, ?_, ?_, ?_⟩
  · intro β _ text v
    simp only [read_eq_ok, scaled_eq]
  · intro text v
    simp only [read_eq_ok, scaled_eq_rounded]
  · intro text number number' n n' unit unit' composed composed'
    exact composed.unique composed'
  · intro sign word spelled
    exact ⟨spelled.rejected, fun text => spelled.notNumber true text.toList⟩
  · intro text v accepted
    exact isNaN_of_read accepted
  · intro text
    exact ⟨isValid_unitStart text, unitStart_eq text⟩

end Quantity

namespace Sample

open Quantity Text.Numeral

/-- A power of ten is no unit, a word is no number, and a letter of another script is not where a
unit starts. -/
theorem hundredths_read :
    read "-1.5e-2mm" = .ok (-(15 / 1000) : ℚ) ∧ read "-1.5e-2mm" = .ok (-0.015 : Float) ∧
    read "2.5E1um" = .ok (1 / 40 : ℚ) ∧
    (∀ number n unit, Composed "-1.5e-2mm" number n unit →
      number = "-1.5e-2".toList ∧ n = ⟨true, 15, -3⟩ ∧ unit = some .millimetre) ∧
    read (α := Float) "-NaN" = .error (.notNumber "-") ∧
    (⟨unitStart "2µm"⟩ : String.Pos.Raw).IsValid "2µm" ∧ unitStart "2µm" = 3 := by
  obtain ⟨_, exactly, doubles, unique, spelled, isNumber, starts⟩ := accepted_texts (α := Float)
  have composed : Composed "-1.5e-2mm" "-1.5e-2".toList ⟨true, 15, -3⟩ (some .millimetre) :=
    ⟨read?_eq_some.mp (by decide), by decide⟩
  have composed' : Composed "2.5E1um" "2.5E1".toList ⟨false, 25, 0⟩ (some .micrometre) :=
    ⟨read?_eq_some.mp (by decide), by decide⟩
  refine ⟨?_, ?_, ?_, ?_, ?_, ?_⟩
  · refine (exactly ℚ _ _).mpr ⟨_, _, _, composed, ?_⟩
    norm_num [amount, worth]
  · exact (doubles _ _).mpr ⟨_, _, _, composed, by decide +kernel⟩
  · refine (exactly ℚ _ _).mpr ⟨_, _, _, composed', ?_⟩
    norm_num [amount, worth]
  · intro number n unit other
    exact unique _ _ _ _ _ _ _ other composed
  · exact (spelled ['-'] ['N', 'a', 'N'] ⟨⟨true, .minus⟩, by decide⟩).1
  · exact ⟨(starts "2µm").1, by rw [(starts "2µm").2]; decide +kernel⟩

end Sample

end DetectorGeometry
