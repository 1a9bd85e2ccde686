namespace DetectorGeometry.Text

/-- The pieces between the occurrences of `mark`; there is always at least one. -/
def split (mark : Char) : List Char → List (List Char)
  | [] => [[]]
  | c :: rest =>
    if c = mark then [] :: split mark rest
    else
      match split mark rest with
      | [] => [[c]]
      | piece :: others => (c :: piece) :: others

theorem split_ne_nil (mark : Char) (cs : List Char) : split mark cs ≠ [] := by
  cases cs with
  | nil => simp [split]
  | cons c rest =>
    simp only [split]
    split
    · simp
    · split <;> simp

theorem intercalate_split (mark : Char) (cs : List Char) :
    [mark].intercalate (split mark cs) = cs := by
  induction cs with
  | nil => rfl
  | cons c rest ih =>
    simp only [split]
    split
    case isTrue same =>
      subst same
      cases pieces : split c rest with
      | nil => exact absurd pieces (split_ne_nil c rest)
      | cons piece others => simpa [pieces, List.intercalate] using ih
    case isFalse =>
      cases pieces : split mark rest with
      | nil => exact absurd pieces (split_ne_nil mark rest)
      | cons piece others =>
        cases others with
        | nil => simp_all [List.intercalate]
        | cons second others => simp_all [List.intercalate]

end DetectorGeometry.Text
