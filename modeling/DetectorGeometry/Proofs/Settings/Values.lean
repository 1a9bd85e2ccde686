import DetectorGeometry.Settings.Section
import DetectorGeometry.Table.Lemmas

namespace DetectorGeometry.Section

variable {β : Type} {settings : Section} {reading : Reading β} {key : String}

theorem get_eq_ok {value : β} :
    settings.get reading key = .ok value ↔
      ∃ text, settings.settings.get? key = some text ∧ reading text = .ok value := by
  rw [get, text]
  cases settings.settings.get? key with
  | none => simp [bind, Except.bind]
  | some text => cases read : reading text <;> simp [bind, Except.bind, read]

theorem get_eq_error {e : SettingsError} :
    settings.get reading key = .error e ↔
      settings.settings.get? key = none ∧ e = .missingKey settings.label key ∨
      ∃ text fault, settings.settings.get? key = some text ∧ reading text = .error fault ∧
        e = .invalidType settings.label key text fault := by
  rw [get, text]
  cases settings.settings.get? key with
  | none => simp [bind, Except.bind, eq_comm]
  | some text => cases read : reading text <;> simp [bind, Except.bind, read, eq_comm]

/-- The value of a key: what its text reads as or, if the key is not defined, a default. -/
inductive Gives (settings : Section) (reading : Reading β) (key : String) (default : β) :
    β → Prop where
  | read {text value} (defined : settings.settings.get? key = some text)
      (reads : reading text = .ok value) : Gives settings reading key default value
  | absent (undefined : settings.settings.get? key = none) :
      Gives settings reading key default default

theorem has_eq_false : settings.has key = false ↔ settings.settings.get? key = none := by
  rw [has, Table.contains_eq, Option.isSome_eq_false_iff, Option.isNone_iff_eq_none]

theorem has_of_get? {text : String} (defined : settings.settings.get? key = some text) :
    settings.has key = true := by
  rw [has, Table.contains_eq, defined, Option.isSome_some]

theorem getD_eq_ok {default value : β} :
    settings.getD reading key default = .ok value ↔ settings.Gives reading key default value := by
  constructor
  · intro given
    rw [getD] at given
    split at given
    case isTrue =>
      obtain ⟨text, defined, reads⟩ := get_eq_ok.mp given
      exact .read defined reads
    case isFalse undefined =>
      cases given
      exact .absent (has_eq_false.mp (by simpa using undefined))
  · intro gives
    cases gives with
    | read defined reads =>
      rw [getD, if_pos (has_of_get? defined)]
      exact get_eq_ok.mpr ⟨_, defined, reads⟩
    | absent undefined => rw [getD, has_eq_false.mpr undefined, if_neg Bool.false_ne_true]

theorem Gives.unique {default value value' : β} (gives : settings.Gives reading key default value)
    (gives' : settings.Gives reading key default value') : value = value' :=
  Except.ok.inj ((getD_eq_ok.mpr gives).symm.trans (getD_eq_ok.mpr gives'))

theorem get_string_eq_error {e : SettingsError} :
    settings.get .string key = .error e ↔
      settings.has key = false ∧ e = .missingKey settings.label key := by
  rw [get_eq_error, has_eq_false, or_iff_left]
  rintro ⟨text, fault, _, failed, _⟩
  cases failed

theorem getD_string_ne_error {default : String} {e : SettingsError} :
    settings.getD .string key default ≠ .error e := by
  intro failed
  rw [getD] at failed
  split at failed
  case isTrue defined =>
    obtain ⟨undefined, _⟩ := get_string_eq_error.mp failed
    cases defined.symm.trans undefined
  case isFalse => cases failed

end DetectorGeometry.Section
