import BuildingWorkflow.Proofs.Node.Escape
import BuildingWorkflow.Proofs.Node.Share

/-!
Queries on a distance.

A query on a distance keeps the first elements, and the further it reaches the more of them. The
distance is divided, bounded, multiplied and cut to a whole number in doubles, and each of these
steps keeps the order. From five on all elements are kept.
-/
namespace BuildingWorkflow

open Binary64

/-! ## Numbers of elements -/

/-- How many of so many elements a query on a distance keeps. -/
def keptWithin (distance : Binary64) (count : Nat) : Nat :=
  roundUnits (count * partUnits (5 * unitsPerOne) distance) / unitsPerOne

section Kept

variable {distance distance' : Binary64} {count : Nat}

theorem five_units_pos : 0 < 5 * unitsPerOne := Nat.mul_pos (by decide) unitsPerOne_pos

theorem keptWithin_mono (from_zero : atMost 0 distance) (further : atMost distance distance') :
    keptWithin distance count ≤ keptWithin distance' count :=
  Nat.div_le_div_right (roundUnits_mono
    (Nat.mul_le_mul_left count (partUnits_mono from_zero further five_units_pos)))

/-- From five on the part is the whole. -/
theorem partUnits_of_full (full : atMost 5 distance) :
    partUnits (5 * unitsPerOne) distance = unitsPerOne := by
  have five : partUnits (5 * unitsPerOne) 5 = unitsPerOne := by decide +kernel
  have from_zero : atMost 0 5 := by decide +kernel
  exact le_antisymm (partUnits_le _ _)
    (five.symm.trans_le (partUnits_mono from_zero full five_units_pos))

theorem keptWithin_of_full (full : atMost 5 distance) (few : count ≤ 2 ^ 53) :
    keptWithin distance count = count := by
  rw [keptWithin, partUnits_of_full full, roundUnits_mul_unitsPerOne few,
    Nat.mul_div_cancel _ unitsPerOne_pos]

theorem leadingShare_within {α : Type} {items : List α} (from_zero : atMost 0 distance)
    (few : items.length ≤ 2 ^ 53) : leadingShare items (least 1 (distance / 5)) =
      .ok (items.take (keptWithin distance items.length)) :=
  leadingShare_eq_take few
    ((amounts_withinDistance from_zero).wholeFloor_ofInt_mul (partUnits_le _ _) few)

end Kept

/-! ## Queries -/

section Queries

variable {inputs : Inputs} {source references : Collection}

theorem SpatialOptions.evaluate_within {o : SpatialOptions} (reach : o.query = .withinDistance)
    (from_zero : atMost 0 o.distance) (main : inputs.main = .ok source)
    (few : source.elements.length ≤ 2 ^ 53)
    (referred : inputs.collection referenceInlet = .ok references)
    (some : references.elements ≠ []) :
    o.evaluate inputs = .ok (.elements (source.withElements
      (source.elements.take (keptWithin o.distance source.elements.length)))) := by
  have shares : o.Shares references.elements := ⟨some, by simp [reach]⟩
  have share : o.share = least 1 (o.distance / 5) := by rw [SpatialOptions.share, reach]
  exact evaluate_take shares main referred (share ▸ leadingShare_within from_zero few)

/-- Of two queries on a distance that are taken, the one that reaches further keeps what the other one
keeps and goes on from there. Both keep the first of the elements, and all of them when they reach
five, and neither of them fails. -/
theorem evaluate_withinDistance (main : inputs.main = .ok source)
    (few : source.elements.length < 2 ^ 53)
    (referred : inputs.collection referenceInlet = .ok references)
    (some : references.elements ≠ []) {raw raw' : Value} {o o' : SpatialOptions}
    (taken : NodeOptions.ofValue .spatial raw = .ok (.spatial o))
    (taken' : NodeOptions.ofValue .spatial raw' = .ok (.spatial o'))
    (reach : o.query = .withinDistance) (reach' : o'.query = .withinDistance)
    (further : atMost o.distance o'.distance) :
    ∃ kept kept', o.evaluate inputs = .ok (.elements (source.withElements kept)) ∧
      o'.evaluate inputs = .ok (.elements (source.withElements kept')) ∧
      kept <+: kept' ∧ kept' <+: source.elements ∧
      (atMost 5 o.distance → kept = source.elements) ∧
      (atMost 5 o'.distance → kept' = source.elements) := by
  have from_zero := SpatialOptions.atMost_distance taken
  have whole {distance : Binary64} (full : atMost 5 distance) :
      source.elements.take (keptWithin distance source.elements.length) = source.elements := by
    rw [keptWithin_of_full full few.le, List.take_length]
  refine ⟨_, _, SpatialOptions.evaluate_within reach from_zero main few.le referred some,
    SpatialOptions.evaluate_within reach' (SpatialOptions.atMost_distance taken') main few.le
      referred some, ?_, List.take_prefix _ _, whole, whole⟩
  exact List.take_prefix_take_left (keptWithin_mono from_zero further)

end Queries

/-- A query on a distance, as it is written down. -/
def withinQuery (distance : Value) : Value :=
  .map [("query_type", .text "within-distance"), ("distance", distance)]

theorem ofValue_withinQuery {v : Value} {distance : Binary64}
    (read : Scalar.numberFrom 0 v = .ok distance) :
    NodeOptions.ofValue .spatial (withinQuery v) = .ok (.spatial ⟨.withinDistance, distance⟩) := by
  rw [withinQuery, NodeOptions.ofValue_map, NodeOptions.read_eq_ok_iff]
  refine ⟨rfl, Reading.fmap_of_eq_ok (Reading.seq_of_eq_ok (Reading.fmap_of_eq_ok rfl) ?_)⟩
  exact optionAt_eq_ok_iff.mpr (Reading.ofScalar_eq_ok_iff.mpr read)

/-- Two fifths of a hundred elements lie within two, and all of them within any distance. -/
theorem evaluate_withinDistance_hundred :
    (wallsByColumn 100).main = .ok ⟨List.replicate 100 plainWall, none⟩ ∧
      (List.replicate 100 plainWall).length < 2 ^ 53 ∧
      (wallsByColumn 100).collection referenceInlet = .ok ⟨[plainColumn], none⟩ ∧
      NodeOptions.ofValue .spatial (withinQuery (.int 2)) =
        .ok (.spatial ⟨.withinDistance, 2⟩) ∧
      NodeOptions.ofValue .spatial (withinQuery (.float (.infinite false))) =
        .ok (.spatial ⟨.withinDistance, .infinite false⟩) ∧
      atMost 2 (.infinite false) ∧ atMost 5 (.infinite false) ∧
      (⟨.withinDistance, 2⟩ : SpatialOptions).evaluate (wallsByColumn 100) =
        .ok (.elements ⟨List.replicate 40 plainWall, none⟩) ∧
      (⟨.withinDistance, .infinite false⟩ : SpatialOptions).evaluate (wallsByColumn 100) =
        .ok (.elements ⟨List.replicate 100 plainWall, none⟩) ∧
      List.replicate 40 plainWall <+: List.replicate 100 plainWall := by
  have main := main_wallsByColumn 100
  have few : (List.replicate 100 plainWall).length < 2 ^ 53 := by decide
  have some : [plainColumn] ≠ [] := List.cons_ne_nil _ _
  have taken : NodeOptions.ofValue .spatial (withinQuery (.int 2)) =
      .ok (.spatial ⟨.withinDistance, 2⟩) := ofValue_withinQuery (by decide +kernel)
  have taken' : NodeOptions.ofValue .spatial (withinQuery (.float (.infinite false))) =
      .ok (.spatial ⟨.withinDistance, .infinite false⟩) := ofValue_withinQuery (by decide +kernel)
  have further : atMost 2 (.infinite false) := by decide +kernel
  have full : atMost 5 (.infinite false) := by decide +kernel
  obtain ⟨kept, kept', near, far, start, -, -, whole⟩ :=
    evaluate_withinDistance main few rfl some taken taken' rfl rfl further
  have forty : (List.replicate 100 plainWall).take (keptWithin 2 100) =
      List.replicate 40 plainWall := by
    rw [show keptWithin 2 100 = 40 by decide +kernel]
    rfl
  have fewer := SpatialOptions.evaluate_within (o := ⟨.withinDistance, 2⟩) rfl
    (SpatialOptions.atMost_distance taken) main few.le rfl some
  rw [List.length_replicate, forty] at fewer
  have same : kept = List.replicate 40 plainWall :=
    congrArg Collection.elements (NodeResult.elements.inj (Except.ok.inj (near.symm.trans fewer)))
  obtain rfl := whole full
  exact ⟨main, few, rfl, taken, taken', further, full, fewer, far, same ▸ start⟩

end BuildingWorkflow
