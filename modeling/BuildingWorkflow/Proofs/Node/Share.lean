import BuildingWorkflow.Proofs.Node.Identity
import BuildingWorkflow.Proofs.Node.Unexpected
import BuildingWorkflow.Proofs.Number.Tenths

/-!
Shares that queries keep.

A query that keeps a share of its elements keeps as many of the first ones as the share of their
number is, rounded down. For seven tenths of some multiples of ten it keeps one less, the first of
them being ninety.
-/
namespace BuildingWorkflow

/-- The tenths of its elements that a query keeps; a query on a distance has no share of its own. -/
def SpatialQuery.tenths? : SpatialQuery → Option Nat
  | .contained => some 7
  | .containing => some 3
  | .intersecting => some 5
  | .touching => some 2
  | .withinDistance => none

def Relation.tenths : Relation → Nat
  | .containment => 6
  | .aggregation => 4
  | .voiding => 2
  | .material => 8
  | .spaceBoundary => 3

theorem takeTo_natCast {α : Type} (items : List α) (n : Nat) : takeTo items n = items.take n := by
  rw [takeTo, if_pos (Int.natCast_nonneg n), Int.toNat_natCast]

/-- The first elements are kept, as many as the whole part of the product is. -/
theorem leadingShare_eq_take {α : Type} {items : List α} {share : Binary64} {kept : Nat}
    (few : items.length ≤ 2 ^ 53)
    (whole : wholeFloor (Binary64.ofInt items.length * share) = .ok (kept : Int)) :
    leadingShare items share = .ok (items.take kept) := by
  have small : (items.length : Int).natAbs < endOfWhole :=
    few.trans_lt Binary64.pow_lt_endOfWhole
  rw [leadingShare, bind_of_eq_ok (intToFloat_of_lt small), bind_of_eq_ok whole, takeTo_natCast]
  rfl

theorem leadingShare_tenths {α : Type} {items : List α} {p : Nat} (few : items.length < 2 ^ 50)
    (low : 2 ≤ p) (high : p ≤ 8) :
    leadingShare items (tenths p) = .ok (items.take (keptTenths p items.length)) :=
  leadingShare_eq_take (few.le.trans (by decide)) (wholeFloor_mul_tenths few low high)

namespace SpatialOptions

variable {o : SpatialOptions} {inputs : Inputs} {source references : Collection}

theorem share_of_tenths? {p : Nat} (own : o.query.tenths? = some p) :
    o.share = tenths p ∧ 2 ≤ p ∧ p ≤ 8 := by
  unfold SpatialOptions.share
  cases query : o.query <;> rw [query] at own <;> cases own
  all_goals exact ⟨rfl, by decide, by decide⟩

/-- A query that keeps a share keeps the first of its elements, even if there are none. -/
theorem evaluate_take (shares : o.Shares references.elements) (main : inputs.main = .ok source)
    (referred : inputs.collection referenceInlet = .ok references) {kept : Nat}
    (leading : leadingShare source.elements o.share = .ok (source.elements.take kept)) :
    o.evaluate inputs = .ok (.elements
      (source.withElements (source.elements.take kept))) := by
  rw [evaluate, bind_of_eq_ok main, bind_of_eq_ok referred]
  dsimp only
  have some : references.elements.isEmpty = false := List.isEmpty_eq_false_iff.mpr shares.some
  have unmatched : ((decide (o.query = .contained) || decide (o.query = .containing)) &&
      references.elements.any Element.isSpatial) = false := by
    rw [← Bool.not_eq_true]
    simpa using shares.unmatched
  by_cases none : source.elements = []
  · rw [none, List.take_nil]
    rfl
  · have filled : (source.elements.isEmpty || references.elements.isEmpty) = false := by
      rw [some, List.isEmpty_eq_false_iff.mpr none]
      rfl
    rw [filled, if_neg Bool.false_ne_true, unmatched, if_neg Bool.false_ne_true,
      bind_of_eq_ok leading]
    rfl

theorem evaluate_tenths (shares : o.Shares references.elements) (main : inputs.main = .ok source)
    (referred : inputs.collection referenceInlet = .ok references) {p : Nat}
    (own : o.query.tenths? = some p) (few : source.elements.length < 2 ^ 50) :
    o.evaluate inputs = .ok (.elements
      (source.withElements (source.elements.take (keptTenths p source.elements.length)))) := by
  obtain ⟨share, low, high⟩ := share_of_tenths? own
  exact evaluate_take shares main referred (share ▸ leadingShare_tenths few low high)

end SpatialOptions

theorem RelationshipOptions.evaluate_tenths {o : RelationshipOptions} {inputs : Inputs}
    {source : Collection} (main : inputs.main = .ok source)
    (few : source.elements.length < 2 ^ 50) :
    o.evaluate inputs = .ok (.elements (source.withElements
      (source.elements.take (source.elements.length * o.relation.tenths / 10)))) := by
  have own : o.relation.share = tenths o.relation.tenths ∧ 2 ≤ o.relation.tenths ∧
      o.relation.tenths ≤ 8 ∧ o.relation.tenths ≠ 7 := by
    cases o.relation <;> exact ⟨rfl, by decide, by decide, by decide⟩
  obtain ⟨share, low, high, other⟩ := own
  have kept := leadingShare_tenths few low high
  rw [keptTenths, if_neg fun short => other short.1, ← share] at kept
  rw [RelationshipOptions.evaluate, bind_of_eq_ok main, bind_of_eq_ok kept]
  rfl

/-- Whatever the elements are, a query on a share keeps the first ones, as many as the tenths of
their number are, rounded down. Only seven tenths are one less, exactly where they fall short. -/
theorem evaluate_share {inputs : Inputs} {source : Collection} (main : inputs.main = .ok source)
    (few : source.elements.length < 2 ^ 50) :
    (∀ {o : SpatialOptions} {references : Collection} {p : Nat},
      inputs.collection referenceInlet = .ok references → o.Shares references.elements →
      o.query.tenths? = some p →
        o.evaluate inputs = .ok (.elements
          (source.withElements (source.elements.take (keptTenths p source.elements.length)))) ∧
        (keptTenths p source.elements.length = source.elements.length * p / 10 ↔
          ¬ (p = 7 ∧ FallsShort source.elements.length))) ∧
    ∀ o : RelationshipOptions,
      o.evaluate inputs = .ok (.elements (source.withElements
        (source.elements.take (source.elements.length * o.relation.tenths / 10)))) := by
  constructor
  · intro o references p referred shares own
    exact ⟨SpatialOptions.evaluate_tenths shares main referred own few, keptTenths_eq_iff⟩
  · exact fun o => RelationshipOptions.evaluate_tenths main few

def plainWall : Element := .create 1 "IfcWall" .empty .empty .empty []

def plainColumn : Element := .create 2 "IfcColumn" .empty .empty .empty []

/-- So many walls, and a column to relate them to. -/
def wallsByColumn (count : Nat) : Inputs :=
  .ofList [(mainInlet, [.elements ⟨List.replicate count plainWall, none⟩]),
    (referenceInlet, [.elements ⟨[plainColumn], none⟩])]

theorem main_wallsByColumn (count : Nat) :
    (wallsByColumn count).main = .ok ⟨List.replicate count plainWall, none⟩ :=
  main_of_single rfl

theorem shares_plainColumn (o : SpatialOptions) : o.Shares [plainColumn] :=
  ⟨List.cons_ne_nil _ _, fun both => absurd both.2 (by decide)⟩

/-- Tenths of a hundred are whole, and none is lost. -/
theorem evaluate_share_hundred :
    (wallsByColumn 100).main = .ok ⟨List.replicate 100 plainWall, none⟩ ∧
      (List.replicate 100 plainWall).length < 2 ^ 50 ∧
      (wallsByColumn 100).collection referenceInlet = .ok ⟨[plainColumn], none⟩ ∧
      (⟨.contained, 1⟩ : SpatialOptions).Shares [plainColumn] ∧
      SpatialQuery.contained.tenths? = some 7 ∧
      (⟨.contained, 1⟩ : SpatialOptions).evaluate (wallsByColumn 100) =
        .ok (.elements ⟨List.replicate 70 plainWall, none⟩) ∧
      (⟨.material, .both⟩ : RelationshipOptions).evaluate (wallsByColumn 100) =
        .ok (.elements ⟨List.replicate 80 plainWall, none⟩) := by
  have main := main_wallsByColumn 100
  have few : (List.replicate 100 plainWall).length < 2 ^ 50 := by decide
  have shares := shares_plainColumn ⟨.contained, 1⟩
  refine ⟨main, few, rfl, shares, rfl, ?_, ?_⟩
  · exact ((evaluate_share main few).1 rfl shares rfl).1
  · exact (evaluate_share main few).2 _

/-- Seven tenths of ninety are sixty-three, but sixty-two are kept. -/
theorem evaluate_contained_ninety :
    (⟨.contained, 1⟩ : SpatialOptions).evaluate (wallsByColumn 90) =
        .ok (.elements ⟨List.replicate 62 plainWall, none⟩) ∧ 90 * 7 / 10 = 63 := by
  have few : (List.replicate 90 plainWall).length < 2 ^ 50 := by decide
  have kept := SpatialOptions.evaluate_tenths (shares_plainColumn _) (main_wallsByColumn 90) rfl
    (o := ⟨.contained, 1⟩) rfl few
  exact ⟨kept, rfl⟩

end BuildingWorkflow
