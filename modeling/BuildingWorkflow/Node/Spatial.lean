import BuildingWorkflow.Element.Lookup
import BuildingWorkflow.Node.Inputs
import BuildingWorkflow.Node.Options
import BuildingWorkflow.Value.Number

/-!
Spatial and relationship queries.

Geometry is not evaluated. Against parts of the spatial structure an element is matched by its
storey; every other query keeps a fixed leading share of the elements.
-/
namespace BuildingWorkflow

/-- A number of tenths. -/
def tenths (n : Nat) : Binary64 := .ofDecimal false n (-1)

/-- The part of a list before a position; a negative position counts from the end. -/
def takeTo {α : Type} (items : List α) (position : Int) : List α :=
  if 0 ≤ position then items.take position.toNat
  else items.take (items.length - position.natAbs)

/-- The first elements, as many as their number times a share, rounded down. -/
def leadingShare {α : Type} (items : List α) (share : Binary64) : Except Fault (List α) := do
  let n ← intToFloat items.length
  return takeTo items (← wholeFloor (n * share))

/-- The share that a query keeps of a non-empty collection. -/
def SpatialOptions.share (options : SpatialOptions) : Binary64 :=
  match options.query with
  | .contained => tenths 7
  | .containing => tenths 3
  | .intersecting => tenths 5
  | .touching => tenths 2
  | .withinDistance => Binary64.least 1 (options.distance / 5)

def Relation.share : Relation → Binary64
  | .containment => tenths 6
  | .aggregation => tenths 4
  | .voiding => tenths 2
  | .material => tenths 8
  | .spaceBoundary => tenths 3

/-- The names of the storeys among some elements. -/
def storeyNames (references : List Element) : List String :=
  (references.filter (·.isType ["IfcBuildingStorey"])).filterMap Element.name?

/-- The elements on one of the storeys; a building among the references has them all when it is
asked what it contains. -/
def byStorey (elements references : List Element) (buildingHasAll : Bool) : List Element :=
  let storeys := storeyNames references
  let all := buildingHasAll && references.any (·.isType ["IfcBuilding"])
  elements.filter fun e => e.storey?.elim false fun storey => all || storeys.contains storey

def SpatialOptions.evaluate (options : SpatialOptions) (inputs : Inputs) :
    Except Fault NodeResult := do
  let source ← inputs.main
  let references := (← inputs.collection referenceInlet).elements
  if source.elements.isEmpty || references.isEmpty then
    return .elements (source.withElements [])
  let structural := (options.query = .contained || options.query = .containing) &&
    references.any Element.isSpatial
  if structural then
    return .elements (source.withElements
      (byStorey source.elements references (options.query = .contained)))
  return .elements (source.withElements (← leadingShare source.elements options.share))

/-- The direction of the relationship does not change the share. -/
def RelationshipOptions.evaluate (options : RelationshipOptions) (inputs : Inputs) :
    Except Fault NodeResult := do
  let source ← inputs.main
  return .elements (source.withElements
    (← leadingShare source.elements options.relation.share))

end BuildingWorkflow
