import DetectorGeometry.Proofs.Model.Placement

/-!
How support layers are stacked, with exact numbers. A layer of a stack begins where the layers of
the same stack that were declared before it end, whatever else was declared in between. The
invariant is `Model.stack_append`: behind some layers the stacks go on at faces that are moved by
the depth of these layers. The layers of one stack therefore do not depend on the others
(`Model.filter_stack`).
-/
namespace DetectorGeometry

open Scalar (half)

variable {α : Type} [ExactScalar α]

namespace SupportLayer

def depth (location : SupportLocation) (layers : List (SupportLayer α)) : α :=
  ((layers.filter (·.location = location)).map SupportLayer.thickness).sum

@[simp] theorem depth_nil (location : SupportLocation) :
    depth location ([] : List (SupportLayer α)) = 0 := rfl

theorem depth_cons (location : SupportLocation) (layer : SupportLayer α)
    (rest : List (SupportLayer α)) :
    depth location (layer :: rest) =
      (if layer.location = location then layer.thickness else 0) + depth location rest := by
  by_cases same : layer.location = location <;> simp [depth, same]

end SupportLayer

namespace Model

open SupportLayer (depth depth_nil depth_cons)

/-- Where the next layer goes, if the two stacks have come to these faces. -/
def seat (center : Vec3 α) (sensorFace chipFace : α) (layer : SupportLayer α) : Vec3 α :=
  match layer.location with
  | .sensor => center + ⟨layer.offset.x, layer.offset.y, sensorFace - half layer.thickness⟩
  | .chip => center + ⟨layer.offset.x, layer.offset.y, chipFace + half layer.thickness⟩
  | .absolute => center + layer.offset

theorem stack_cons (center : Vec3 α) (sensorFace chipFace : α) (layer : SupportLayer α)
    (rest : List (SupportLayer α)) :
    stack center sensorFace chipFace (layer :: rest) =
      ⟨layer, seat center sensorFace chipFace layer⟩ ::
        stack center (sensorFace - depth .sensor [layer]) (chipFace + depth .chip [layer])
          rest := by
  cases location : layer.location <;> simp [stack, seat, depth_cons, location]

theorem stack_append (center : Vec3 α) (sensorFace chipFace : α)
    (before behind : List (SupportLayer α)) :
    stack center sensorFace chipFace (before ++ behind) =
      stack center sensorFace chipFace before ++
        stack center (sensorFace - depth .sensor before) (chipFace + depth .chip before)
          behind := by
  -- Every layer moves a face, so the induction is for all faces.
  induction before generalizing sensorFace chipFace with
  | nil => simp [stack]
  | cons layer rest ih =>
    rw [List.cons_append, stack_cons, stack_cons, ih, List.cons_append, sub_sub, add_assoc]
    simp only [depth_cons, depth_nil, add_zero]

theorem map_layer_stack (center : Vec3 α) (sensorFace chipFace : α)
    (layers : List (SupportLayer α)) :
    (stack center sensorFace chipFace layers).map (·.layer) = layers := by
  induction layers generalizing sensorFace chipFace with
  | nil => rfl
  | cons layer rest ih => rw [stack_cons, List.map_cons, ih]

theorem length_stack (center : Vec3 α) (sensorFace chipFace : α)
    (layers : List (SupportLayer α)) :
    (stack center sensorFace chipFace layers).length = layers.length := by
  rw [← congrArg List.length (map_layer_stack center sensorFace chipFace layers), List.length_map]

/-- The layers of one stack lie as if there were no others: of the two faces only the one that the
stack has started at counts. -/
theorem filter_stack {location : SupportLocation} (stacked : location ≠ .absolute)
    (center : Vec3 α) {sensorFace chipFace sensorFace' chipFace' : α}
    (sensor : location = .sensor → sensorFace = sensorFace')
    (chip : location = .chip → chipFace = chipFace') (layers : List (SupportLayer α)) :
    (stack center sensorFace chipFace layers).filter (·.layer.location = location) =
      stack center sensorFace' chipFace' (layers.filter (·.location = location)) := by
  induction layers generalizing sensorFace chipFace sensorFace' chipFace' with
  | nil => rfl
  | cons layer rest ih =>
    by_cases same : layer.location = location
    · have here : seat center sensorFace chipFace layer =
          seat center sensorFace' chipFace' layer := by
        cases location with
        | sensor => simp only [seat, same, sensor rfl]
        | chip => simp only [seat, same, chip rfl]
        | absolute => exact absurd rfl stacked
      rw [List.filter_cons_of_pos (by simpa using same), stack_cons, stack_cons,
        List.filter_cons_of_pos (by simpa using same), here]
      exact congrArg _ (ih (fun h => by rw [sensor h]) (fun h => by rw [chip h]))
    · have still : depth location [layer] = 0 := by simp [depth_cons, same]
      rw [List.filter_cons_of_neg (by simpa using same), stack_cons,
        List.filter_cons_of_neg (by simpa using same)]
      apply ih
      · rintro rfl
        rw [still, sub_zero, sensor rfl]
      · rintro rfl
        rw [still, add_zero, chip rfl]

/-- Where a layer belongs behind the layers that were declared before it: in the plane at its
offset, and along `z` on the outer face of what is below it. An absolute layer is at its offset
altogether. -/
structure Seated (m : Model α) (before : List (SupportLayer α)) (placed : PlacedLayer α) :
    Prop where
  x : placed.center.x = m.center.x + placed.layer.offset.x
  y : placed.center.y = m.center.y + placed.layer.offset.y
  sensor : placed.layer.location = .sensor →
    placed.box.max.z = m.sensorCenter.z - half m.sensorThickness - depth .sensor before ∧
      placed.box.min.z = placed.box.max.z - placed.layer.thickness
  chip : placed.layer.location = .chip →
    placed.box.min.z = m.chipCenter.z + half m.chipSize.z + depth .chip before ∧
      placed.box.max.z = placed.box.min.z + placed.layer.thickness
  absolute : placed.layer.location = .absolute → placed.center = m.center + placed.layer.offset

theorem sensorFace_eq (m : Model α) :
    half (-m.sensorSize.z) = m.sensorCenter.z - half m.sensorThickness := by
  simp only [sensorSize_z, sensorCenter_z, Scalar.half_eq]
  ring

theorem chipFace_eq (m : Model α) :
    half m.sensorSize.z + m.chipGap + m.chipSize.z = m.chipCenter.z + half m.chipSize.z := by
  simp only [chipCenter_z, sensorSize_z, chipSize_z, Scalar.half_eq]
  ring

theorem seated_seat (m : Model α) (before : List (SupportLayer α)) (layer : SupportLayer α) :
    m.Seated before ⟨layer, seat m.center (half (-m.sensorSize.z) - depth .sensor before)
      (half m.sensorSize.z + m.chipGap + m.chipSize.z + depth .chip before) layer⟩ := by
  rw [m.sensorFace_eq, m.chipFace_eq]
  have thickness : layer.size.z = layer.thickness := rfl
  constructor
  case x => cases location : layer.location <;> simp [seat, location]
  case y => cases location : layer.location <;> simp [seat, location]
  case sensor =>
    intro sensor
    change layer.location = .sensor at sensor
    simp only [PlacedLayer.box, Box.around, seat, sensor, Vec3.half, Vec3.map, Vec3.add_z,
      Vec3.sub_z, center_z, thickness, Scalar.half_eq]
    constructor <;> ring
  case chip =>
    intro chip
    change layer.location = .chip at chip
    simp only [PlacedLayer.box, Box.around, seat, chip, Vec3.half, Vec3.map, Vec3.add_z,
      Vec3.sub_z, center_z, thickness, Scalar.half_eq]
    constructor <;> ring
  case absolute =>
    intro absolute
    change layer.location = .absolute at absolute
    simp only [seat, absolute]

theorem exists_seated {m : Model α} {before behind : List (SupportLayer α)} {layer : SupportLayer α}
    (declared : m.declaredLayers = before ++ layer :: behind) :
    ∃ placed, m.supportLayers[before.length]? = some placed ∧ placed.layer = layer ∧
      m.Seated before placed := by
  refine ⟨_, ?_, rfl, m.seated_seat before layer⟩
  have past := (length_stack m.center (half (-m.sensorSize.z))
    (half m.sensorSize.z + m.chipGap + m.chipSize.z) before).le
  rw [supportLayers, declared, stack_append, stack_cons, List.getElem?_append_right past,
    length_stack, Nat.sub_self, List.getElem?_cons_zero]

theorem filter_supportLayers {location : SupportLocation} (stacked : location ≠ .absolute)
    {m : Model α} {layers : List (SupportLayer α)} (document : Document)
    (same : layers.filter (·.location = location) =
      m.declaredLayers.filter (·.location = location)) :
    { m with declaredLayers := layers, document }.supportLayers.filter
        (·.layer.location = location) =
      m.supportLayers.filter (·.layer.location = location) := by
  change (stack m.center (half (-m.sensorSize.z)) (half m.sensorSize.z + m.chipGap + m.chipSize.z)
    layers).filter _ = (stack m.center _ _ m.declaredLayers).filter _
  rw [filter_stack stacked _ (fun _ => rfl) (fun _ => rfl),
    filter_stack stacked _ (fun _ => rfl) (fun _ => rfl), same]

/-- Support layers are stacked outward without gaps or overlaps, in the order of their declaration,
and what is declared for other places has no influence on a stack. -/
theorem layers_stack_outward (m : Model α) :
    m.supportLayers.map (·.layer) = m.declaredLayers ∧
    (∀ before layer behind, m.declaredLayers = before ++ layer :: behind →
      ∃ placed, m.supportLayers[before.length]? = some placed ∧ placed.layer = layer ∧
        m.Seated before placed) ∧
    ∀ layers document location, location ≠ .absolute →
      layers.filter (·.location = location) = m.declaredLayers.filter (·.location = location) →
      { m with declaredLayers := layers, document }.supportLayers.filter
          (·.layer.location = location) =
        m.supportLayers.filter (·.layer.location = location) := by
  refine ⟨map_layer_stack _ _ _ _, fun _ _ _ => exists_seated, ?_⟩
  intro layers document location stacked same
  exact filter_supportLayers stacked document same

end Model

namespace Sample

def regrouped : List (SupportLayer ℚ) :=
  lopsided.declaredLayers.filter (·.location = .sensor) ++
    lopsided.declaredLayers.filter (·.location = .chip)

/-- The second layer on the chip starts where the first one ends, with other layers declared between
them and without. -/
theorem lopsided_stacks :
    (∃ placed, lopsided.supportLayers[3]? = some placed ∧
      placed.box.min.z = lopsided.chipCenter.z + half lopsided.chipSize.z + 2 ∧
      placed.box.max.z = placed.box.min.z + 3) ∧
    { lopsided with declaredLayers := regrouped }.supportLayers.filter
        (·.layer.location = SupportLocation.chip) =
      lopsided.supportLayers.filter (·.layer.location = SupportLocation.chip) := by
  obtain ⟨_, seated, alone⟩ := Model.layers_stack_outward lopsided
  have declared : lopsided.declaredLayers = lopsided.declaredLayers.take 3 ++
      ⟨⟨7, 7, 3⟩, "g10", .chip, ⟨0, -2, 0⟩, .zero, .zero⟩ :: lopsided.declaredLayers.drop 4 := rfl
  obtain ⟨placed, found, isLayer, inPlace⟩ := seated _ _ _ declared
  obtain ⟨start, stop⟩ := inPlace.chip (by rw [isLayer])
  refine ⟨⟨placed, found, start.trans ?_, stop.trans ?_⟩, alone regrouped _ .chip nofun ?_⟩
  · decide +kernel
  · rw [isLayer]
    rfl
  · decide +kernel

end Sample

end DetectorGeometry
