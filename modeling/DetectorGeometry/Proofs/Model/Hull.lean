import DetectorGeometry.Proofs.Space.Enclosure
import DetectorGeometry.Model.Layout

namespace DetectorGeometry.Model

variable {α : Type} [ExactScalar α]

/-- The parts of a model, each a box given by its center and its full size. -/
inductive Part (m : Model α) : Vec3 α → Vec3 α → Prop
  | sensor : m.Part m.sensorCenter m.sensorSize
  | chip : m.Part m.chipCenter m.chipSize
  | support {placed : PlacedLayer α} (listed : placed ∈ m.supportLayers) :
      m.Part placed.center placed.layer.size

theorem includeLayers_within_iff {b c : Box α} {layers : List (PlacedLayer α)} :
    (layers.foldl (fun box placed => box.includeBox placed.center placed.layer.size) b).Within c ↔
      b.Within c ∧
        ∀ placed ∈ layers, ∀ p, Box.Holds placed.center placed.layer.size p → c.Contains p := by
  induction layers generalizing b with
  | nil => simp
  | cons placed layers ih =>
    rw [List.foldl_cons, ih, Box.includeBox_within_iff, List.forall_mem_cons, and_assoc]

theorem hull_within_iff {m : Model α} {c : Box α} :
    m.hull.Within c ↔
      Box.empty.Within c ∧
        ∀ center size, m.Part center size → ∀ p, Box.Holds center size p → c.Contains p := by
  unfold hull
  rw [includeLayers_within_iff, Box.includeBox_within_iff, Box.includeBox_within_iff]
  constructor
  · rintro ⟨⟨⟨empty, sensor⟩, chip⟩, layers⟩
    refine ⟨empty, fun center size part => ?_⟩
    cases part with
    | sensor => exact sensor
    | chip => exact chip
    | support listed => exact layers _ listed
  · rintro ⟨empty, parts⟩
    exact ⟨⟨⟨empty, parts _ _ .sensor⟩, parts _ _ .chip⟩,
      fun _ listed => parts _ _ (.support listed)⟩

theorem Part.holds {m : Model α} {center size p : Vec3 α} (part : m.Part center size)
    (held : Box.Holds center size p) : Box.Holds m.center m.size p :=
  ((hull_within_iff.1 .rfl).2 center size part p held).holds_symmetricSize m.center

end DetectorGeometry.Model
