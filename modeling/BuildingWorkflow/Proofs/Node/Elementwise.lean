import BuildingWorkflow.Proofs.Node.Classification
import BuildingWorkflow.Proofs.Node.Partition

/-!
Nodes that look at one element at a time.

Filters, selections, placements, and property and classification nodes go through the elements of
their collection and keep, drop or edit each of them for itself. What feeds their other inlets is
the same for all elements, and the model of the collection stays.
-/
namespace BuildingWorkflow

namespace Inputs

/-- Inputs with one collection at the main inlet, whatever leads into the other inlets. -/
def fed (rest : Inputs) (c : Collection) : Inputs := rest.insert mainInlet [.elements c]

variable (rest : Inputs) (c : Collection)

theorem main_fed : (rest.fed c).main = .ok c := by
  apply main_of_single
  simp [results, fed]

theorem single?_fed {inlet : String} (other : inlet ≠ mainInlet) :
    (rest.fed c).single? inlet = rest.single? inlet := by
  simp [single?, results, fed, other]

end Inputs

namespace PropertyOptions

variable (o : PropertyOptions) (rest : Inputs) (c : Collection)

theorem valueFor_fed : o.valueFor (rest.fed c) = o.valueFor rest := by
  rw [valueFor, valueFor, Inputs.single?_fed rest c (by decide)]

/-- What a node does to each element; without a name it does nothing. -/
def applied (v : Value) (e : Element) : Element := if o.place.1 = "" then e else o.edit v e

theorem evaluate_fed {v : Value} (supplied : o.valueFor rest = .ok v) :
    o.evaluate (rest.fed c) =
      .ok (.elements (c.withElements (c.elements.map (o.applied v)))) := by
  by_cases named : o.place.1 = ""
  · have idle : o.applied v = id := funext fun e => if_pos named
    rw [evaluate_unnamed (rest.main_fed c) named, idle, List.map_id]
    rfl
  · have edits : o.applied v = o.edit v := funext fun e => if_neg named
    rw [evaluate_eq (rest.main_fed c) named ((o.valueFor_fed rest c).trans supplied), edits]

end PropertyOptions

/-- What a placement does to each element. -/
def TransformOptions.edit (o : TransformOptions) (e : Element) : Element :=
  { e with transform := some o.transform }

theorem TransformOptions.evaluate_eq (o : TransformOptions) {inputs : Inputs} {source : Collection}
    (main : inputs.main = .ok source) :
    o.evaluate inputs = .ok (.elements (source.withElements (source.elements.map o.edit))) := by
  simp only [evaluate, main, bind, Except.bind, pure, Except.pure]
  rfl

theorem GeometryOptions.evaluate_eq (o : GeometryOptions) {inputs : Inputs} {source : Collection}
    (main : inputs.main = .ok source) :
    o.evaluate inputs =
      .ok (.elements (source.withElements (source.elements.filter o.selects))) := by
  simp only [evaluate, main, bind, Except.bind, pure, Except.pure]

end BuildingWorkflow
