import Mathlib.Data.List.TakeWhile
import DetectorGeometry.Files.Path
import DetectorGeometry.Proofs.Text.Lines

namespace DetectorGeometry

namespace EntryName

theorem ext {a b : EntryName} (same : a.text = b.text) : a = b := by
  cases a
  cases b
  simpa using same

theorem isAbsolute_eq_false (name : EntryName) : Path.isAbsolute ⟨name.text⟩ = false := by
  apply Bool.eq_false_iff.mpr
  intro absolute
  exact name.undivided (List.mem_of_head? (eq_of_beq absolute))

theorem counts_eq_true (name : EntryName) (atStart : Bool) :
    Path.counts atStart name.text.toList = true := by
  obtain ⟨some, notDot, -⟩ := name.named
  have nonempty : name.text.toList ≠ [] := mt String.toList_eq_nil_iff.mp some
  have notDot' : name.text.toList ≠ ['.'] := by
    intro same
    exact notDot (String.toList_injective same)
  simp [Path.counts, nonempty, notDot']

end EntryName

namespace Path

theorem dropIdle_concat {segment : List Char} (naming : ∀ atStart, counts atStart segment = true)
    (atStart : Bool) (before : List (List Char)) :
    dropIdle atStart (before ++ [segment]) = before ++ [segment] := by
  induction before generalizing atStart with
  | nil => simp [dropIdle, naming]
  | cons first others ih =>
    rw [List.cons_append, dropIdle, ih]
    cases others <;> rfl

theorem segments_entry (p : Path) (name : EntryName) :
    ∃ before, (p.entry name).segments = before ++ [name.text.toList] := by
  unfold entry join segments
  rw [name.isAbsolute_eq_false]
  have last := Text.split_of_notMem name.undivided
  dsimp only
  rw [if_neg Bool.false_ne_true]
  split
  case isTrue joined =>
    rcases (Bool.or_eq_true ..).mp joined with empty | slash
    · rw [String.isEmpty_iff.mp empty, String.empty_append, last]
      exact ⟨[], rfl⟩
    · obtain ⟨before, parts⟩ := List.getLast?_eq_some_iff.mp (eq_of_beq slash)
      rw [String.toList_append, parts, List.append_assoc, List.singleton_append,
        Text.split_append_mark, last]
      exact ⟨_, rfl⟩
  case isFalse =>
    rw [String.toList_append, String.toList_append, List.append_assoc]
    exact ⟨_, (Text.split_append_mark _ _).trans (congrArg _ last)⟩

theorem fileName?_entry (p : Path) (name : EntryName) :
    (p.entry name).fileName? = some name.text := by
  obtain ⟨before, parts⟩ := segments_entry p name
  obtain ⟨-, notDot, notDots⟩ := name.named
  have naming : ¬(name.text.toList = ['.'] ∨ name.text.toList = ['.', '.']) := by
    rintro (dot | dots)
    · exact notDot (String.toList_injective dot)
    · exact notDots (String.toList_injective dots)
  rw [fileName?, namingSegments, parts, dropIdle_concat name.counts_eq_true, List.getLast?_concat]
  dsimp only
  rw [if_neg naming, String.ofList_toList]

theorem splitExtension_eq_some {name stem ext : String} :
    splitExtension name = (stem, some ext) ↔
      stem ≠ "" ∧ '.' ∉ ext.toList ∧ name = stem ++ "." ++ ext := by
  constructor
  · intro cut
    have parts := List.takeWhile_append_dropWhile (p := (· != '.')) (l := name.toList.reverse)
    have stops := List.head?_dropWhile_not (· != '.') name.toList.reverse
    unfold splitExtension at cut
    dsimp only at cut
    split at cut
    case h_1 => cases cut
    case h_2 dot front rest =>
      split at cut
      case isTrue => cases cut
      case isFalse nonempty =>
        cases cut
        rw [rest] at parts stops
        have isDot : dot = '.' := by simpa using stops
        refine ⟨by simpa using nonempty, ?_, ?_⟩
        · rw [String.toList_ofList, List.mem_reverse]
          intro inside
          exact absurd (List.mem_takeWhile_imp inside) (by decide)
        · apply String.toList_injective
          have inOrder := congrArg List.reverse parts
          simpa [isDot] using inOrder.symm
  · rintro ⟨nonempty, undotted, rfl⟩
    have passed : ∀ c ∈ ext.toList.reverse, (c != '.') = true := by
      intro c member
      refine bne_iff_ne.mpr fun same => ?_
      exact undotted (same ▸ List.mem_reverse.mp member)
    have reversed : (stem ++ "." ++ ext).toList.reverse =
        ext.toList.reverse ++ '.' :: stem.toList.reverse := by simp
    have front : stem.toList.reverse.isEmpty = false := by simpa using nonempty
    unfold splitExtension
    rw [reversed]
    dsimp only
    rw [List.takeWhile_append_of_pos passed, List.dropWhile_append_of_pos passed]
    simp [front]

end Path

end DetectorGeometry
