import BuildingWorkflow.Fault
import BuildingWorkflow.Node.Result

/-!
The results of a run, by node. Each is written once, in the order in which the nodes ended.
-/
namespace BuildingWorkflow

abbrev Store := OrderedMap NodeResult

namespace Store

/-- Adds the result of a node that has none yet. -/
def record (store : Store) (id : String) (result : NodeResult) : Except Fault Store :=
  if store.contains id then .error (.alreadyRecorded id) else .ok (store.insert id result)

/-- Whether a node has a value. -/
def ok (store : Store) (id : String) : Bool := (store.find? id).elim false fun r => !r.isError

/-- The nodes that ended without a value. -/
def failures (store : Store) : List String :=
  (store.entries.filter fun entry => entry.2.isError).map Prod.fst

end Store

end BuildingWorkflow
