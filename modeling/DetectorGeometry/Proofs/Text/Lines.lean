import DetectorGeometry.Text.Split

namespace DetectorGeometry.Text

variable {mark : Char}

theorem split_append_mark (before after : List Char) :
    split mark (before ++ mark :: after) = split mark before ++ split mark after := by
  induction before with
  | nil => simp [split]
  | cons c before ih =>
    rw [List.cons_append, split, split]
    split
    case isTrue => rw [ih, List.cons_append]
    case isFalse =>
      rw [ih]
      cases pieces : split mark before with
      | nil => exact absurd pieces (split_ne_nil mark before)
      | cons piece others => rfl

theorem split_of_notMem {cs : List Char} (absent : mark ∉ cs) : split mark cs = [cs] := by
  induction cs with
  | nil => rfl
  | cons c rest ih =>
    rw [List.mem_cons, not_or] at absent
    rw [split, if_neg (Ne.symm absent.1), ih absent.2]

theorem notMem_of_mem_split {cs piece : List Char} (member : piece ∈ split mark cs) :
    mark ∉ piece := by
  induction cs generalizing piece with
  | nil =>
    rw [split, List.mem_singleton] at member
    simp [member]
  | cons c rest ih =>
    rw [split] at member
    split at member
    case isTrue =>
      rcases List.mem_cons.mp member with rfl | member
      · simp
      · exact ih member
    case isFalse different =>
      cases pieces : split mark rest with
      | nil => exact absurd pieces (split_ne_nil mark rest)
      | cons first others =>
        rw [pieces] at member ih
        rcases List.mem_cons.mp member with rfl | member
        · rw [List.mem_cons, not_or]
          exact ⟨Ne.symm different, ih List.mem_cons_self⟩
        · exact ih (List.mem_cons_of_mem _ member)

theorem length_split (cs : List Char) : (split mark cs).length = cs.count mark + 1 := by
  induction cs with
  | nil => rfl
  | cons c rest ih =>
    rw [split]
    split
    case isTrue same => simp [ih, same]
    case isFalse different =>
      rw [List.count_cons_of_ne different, ← ih]
      cases pieces : split mark rest with
      | nil => exact absurd pieces (split_ne_nil mark rest)
      | cons piece others => rfl

theorem split_lines_append {lines : List (List Char)} (whole : ∀ line ∈ lines, mark ∉ line)
    (rest : List Char) :
    split mark (lines.flatMap (· ++ [mark]) ++ rest) = lines ++ split mark rest := by
  induction lines with
  | nil => rfl
  | cons line others ih =>
    obtain ⟨whole, others_whole⟩ := List.forall_mem_cons.mp whole
    rw [List.flatMap_cons, List.append_assoc, List.append_assoc, List.singleton_append,
      split_append_mark, split_of_notMem whole, ih others_whole]
    rfl

end DetectorGeometry.Text
