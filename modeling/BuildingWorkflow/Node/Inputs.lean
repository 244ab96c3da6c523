import BuildingWorkflow.Node.Kind
import BuildingWorkflow.Node.Result

/-!
What feeds a node: the results of its predecessors, by inlet and in the order of the edges.
-/
namespace BuildingWorkflow

abbrev Inputs := OrderedMap (List NodeResult)

/-- The collection of a result that feeds an inlet. -/
def collectionOf (inlet : String) : NodeResult → Except Fault Collection
  | .elements c => .ok c
  | result => .error (.invalidInput inlet "an element collection" result.kindName)

/-- Collections one after the other. -/
def mergeCollections (inlet : String) : List NodeResult → Except Fault Collection
  | [] => .ok .empty
  | result :: rest => do
      let c ← collectionOf inlet result
      let c' ← mergeCollections inlet rest
      return c.append c'

namespace Inputs

/-- The results at an inlet; an inlet without edges has none. -/
def results (inputs : Inputs) (inlet : String) : List NodeResult := (inputs.find? inlet).getD []

def single? (inputs : Inputs) (inlet : String) : Option NodeResult := (inputs.results inlet).head?

/-- The elements at an inlet; one without edges has an empty collection. -/
def collection (inputs : Inputs) (inlet : String) : Except Fault Collection :=
  mergeCollections inlet (inputs.results inlet)

/-- The elements at the main inlet. -/
def main (inputs : Inputs) : Except Fault Collection := inputs.collection mainInlet

end Inputs

end BuildingWorkflow
