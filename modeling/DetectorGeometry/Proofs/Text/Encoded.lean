import Mathlib
import DetectorGeometry.Text.Split

namespace DetectorGeometry.Text

theorem isAlpha_iff {c : Char} :
    c.isAlpha = true ↔ 65 ≤ c.toNat ∧ c.toNat ≤ 90 ∨ 97 ≤ c.toNat ∧ c.toNat ≤ 122 := by
  simp only [Char.isAlpha, Char.isUpper, Char.isLower, Bool.or_eq_true, Bool.and_eq_true,
    decide_eq_true_eq, UInt32.le_iff_toNat_le, ge_iff_le]
  exact Iff.rfl

theorem isDigit_iff {c : Char} : c.isDigit = true ↔ 48 ≤ c.toNat ∧ c.toNat ≤ 57 := by
  simp only [Char.isDigit, Bool.and_eq_true, decide_eq_true_eq, UInt32.le_iff_toNat_le, ge_iff_le]
  exact Iff.rfl

def encoded (cs : List Char) : List UInt8 := cs.flatMap String.utf8EncodeChar

theorem encoded_cons (c : Char) (cs : List Char) :
    encoded (c :: cs) = String.utf8EncodeChar c ++ encoded cs := List.flatMap_cons

theorem toList_toUTF8 (text : String) : text.toUTF8.data.toList = encoded text.toList := by
  show text.toByteArray.data.toList = _
  rw [← String.utf8Encode_toList]
  simp [List.utf8Encode, encoded]

theorem utf8ByteSize_ofList (cs : List Char) :
    (String.ofList cs).utf8ByteSize = (encoded cs).length := by
  rw [String.utf8ByteSize, String.toByteArray_ofList]
  simp [List.utf8Encode, encoded]

theorem encode_ascii {c : Char} (ascii : c.toNat < 128) :
    String.utf8EncodeChar c = [UInt8.ofNat c.toNat] := by
  have small : c.val.toNat ≤ 127 := Nat.le_of_lt_succ ascii
  rw [String.utf8EncodeChar]
  exact if_pos small

theorem le_of_mem_encode {c : Char} (other : 128 ≤ c.toNat) :
    ∀ b ∈ String.utf8EncodeChar c, 128 ≤ b.toNat := by
  have large : ¬c.val.toNat ≤ 127 := Nat.not_le.mpr other
  simp only [String.utf8EncodeChar, if_neg large]
  split_ifs
  all_goals
    simp only [List.forall_mem_cons, UInt8.toNat_ofNat', List.not_mem_nil, false_implies,
      implies_true, and_true]
    omega

theorem cons_lt_cons_of_toNat {a b : UInt8} {bytes others : List UInt8} (le : a.toNat ≤ b.toNat)
    (rest : a.toNat = b.toNat → bytes < others) : a :: bytes < b :: others := by
  rcases Nat.lt_or_eq_of_le le with less | same
  · exact List.cons_lt_cons_iff.mpr (.inl (UInt8.lt_iff_toNat_lt.mpr less))
  · exact List.cons_lt_cons_iff.mpr (.inr ⟨UInt8.toNat_inj.mp same, rest same⟩)

theorem encode_append_lt {c d : Char} (less : c < d) (bytes others : List UInt8) :
    String.utf8EncodeChar c ++ bytes < String.utf8EncodeChar d ++ others := by
  have values : c.val.toNat < d.val.toNat := less
  have bound : d.val.toNat < 0x110000 := d.valid.elim (fun small => by omega) And.right
  simp only [String.utf8EncodeChar]
  -- A shorter form has the lesser first byte; of two forms of one length some byte decides.
  split_ifs
  all_goals
    simp only [List.cons_append, List.nil_append]
    repeat
      refine cons_lt_cons_of_toNat (by simp only [UInt8.toNat_ofNat']; omega) fun same => ?_
      rw [UInt8.toNat_ofNat', UInt8.toNat_ofNat'] at same
    omega

theorem encoded_lt_of_lt {cs ds : List Char} (less : cs < ds) : encoded cs < encoded ds := by
  induction List.lex_lt.mpr less with
  | @nil d ds =>
    rw [encoded_cons]
    cases bytes : String.utf8EncodeChar d with
    | nil => exact absurd bytes String.utf8EncodeChar_ne_nil
    | cons => exact List.nil_lt_cons ..
  | rel first =>
    rw [encoded_cons, encoded_cons]
    exact encode_append_lt first ..
  | cons rest ih =>
    rw [encoded_cons, encoded_cons]
    exact List.append_left_lt (ih (List.lex_lt.mp rest))

theorem encoded_lt_encoded {cs ds : List Char} : encoded cs < encoded ds ↔ cs < ds := by
  constructor
  · intro less
    apply Decidable.byContradiction
    intro notLess
    rcases List.le_iff_lt_or_eq.mp (List.not_lt.mp notLess) with above | rfl
    · exact List.lt_asymm less (encoded_lt_of_lt above)
    · exact List.lt_irrefl _ less
  · exact encoded_lt_of_lt

theorem toUTF8_lt_toUTF8 {s t : String} :
    s.toUTF8.data.toList < t.toUTF8.data.toList ↔ s < t := by
  rw [toList_toUTF8, toList_toUTF8, encoded_lt_encoded]
  exact Iff.rfl

end DetectorGeometry.Text
