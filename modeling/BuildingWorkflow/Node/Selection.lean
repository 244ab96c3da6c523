import BuildingWorkflow.Node.Inputs
import BuildingWorkflow.Node.Options

/-!
Selection of elements by category, and placement of elements.
-/
namespace BuildingWorkflow

/-- The classes of a category. -/
def categoryTypes? : String → Option (List String)
  | "walls" => some ["IfcWall", "IfcWallStandardCase"]
  | "slabs" => some ["IfcSlab", "IfcRoof"]
  | "columns" => some ["IfcColumn"]
  | "beams" => some ["IfcBeam"]
  | "doors" => some ["IfcDoor"]
  | "windows" => some ["IfcWindow"]
  | "stairs" => some ["IfcStair", "IfcStairFlight"]
  | "furniture" => some ["IfcFurnishingElement", "IfcFurniture"]
  | "spaces" => some ["IfcSpace"]
  | "openings" => some ["IfcOpeningElement"]
  | _ => none

namespace GeometryOptions

/-- Whether an element is of the chosen category; an unknown category has no elements. -/
def selects (options : GeometryOptions) (e : Element) : Bool :=
  (match lower (trim options.category) with
    | "all" => true
    | category => (categoryTypes? category).elim false e.isType) &&
  (options.openings || !e.isOpening)

def evaluate (options : GeometryOptions) (inputs : Inputs) : Except Fault NodeResult := do
  let source ← inputs.main
  return .elements (source.withElements (source.elements.filter options.selects))

end GeometryOptions

/-- Every element gets the transform, in place of an earlier one. -/
def TransformOptions.evaluate (options : TransformOptions) (inputs : Inputs) :
    Except Fault NodeResult := do
  let source ← inputs.main
  return .elements (source.withElements
    (source.elements.map fun e => { e with transform := some options.transform }))

end BuildingWorkflow
