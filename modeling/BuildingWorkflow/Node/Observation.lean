import BuildingWorkflow.Node.Inputs
import BuildingWorkflow.Text.Sorted

/-!
Watch and viewer nodes pass on what they are fed.
-/
namespace BuildingWorkflow

/-- A single result as it is, and several collections one after the other. -/
def passThrough (inputs : Inputs) : Except Fault NodeResult :=
  match inputs.results mainInlet with
  | [] => .ok (.elements .empty)
  | [result] => .ok result
  | results =>
      if results.all (·.kindName == "elements") then inputs.main.map .elements
      else .error (.invalidInput mainInlet "element collections to combine"
        (String.intercalate ", " (sortedNames (results.map NodeResult.kindName))))

end BuildingWorkflow
