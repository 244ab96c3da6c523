import BuildingWorkflow.Element.Basic
import BuildingWorkflow.Value.Number

/-!
Measures of an element, read from its quantity sets.
-/
namespace BuildingWorkflow

inductive Measure
  | length
  | area
  | volume
  | count
  | weight
deriving DecidableEq

namespace Measure

/-- The quantities that record a measure, in the order in which they are tried. -/
def quantities : Measure → List String
  | length => ["Length", "Height", "Width", "Depth"]
  | area => ["Area", "NetArea", "GrossArea", "NetFloorArea", "GrossFloorArea"]
  | volume => ["Volume", "NetVolume", "GrossVolume"]
  | weight => ["Weight", "NetWeight", "GrossWeight"]
  | count => []

end Measure

/-- The first number other than zero among some values. -/
def firstNonzero? : List Value → Except Fault (Option Binary64)
  | [] => .ok none
  | v :: rest => do
      match ← v.number? with
      | some x => if x.isZero then firstNonzero? rest else return some x
      | none => firstNonzero? rest

/-- The first number other than zero that a quantity set records for a measure. Every element
counts as one. -/
def Element.measure? (e : Element) (m : Measure) : Except Fault (Option Binary64) :=
  match m with
  | .count => .ok (some 1)
  | m => firstNonzero? (e.qtos.values.flatMap fun values => m.quantities.filterMap values.find?)

end BuildingWorkflow
