import BuildingWorkflow.Run.State

/-!
What evaluations see of their inputs.

Inputs list their inlets in some order, and an inlet that nothing leads into may be listed or not.
Neither shows in an evaluation: it looks at the results at each inlet alone.
-/
namespace BuildingWorkflow

/-- Every inlet gets the same results. -/
def Inputs.Alike (inputs inputs' : Inputs) : Prop :=
  ∀ inlet, inputs.results inlet = inputs'.results inlet

namespace Inputs.Alike

variable {inputs inputs' : Inputs} (same : inputs.Alike inputs')

include same

theorem single? (inlet : String) : inputs.single? inlet = inputs'.single? inlet := by
  simp only [Inputs.single?, same inlet]

theorem collection (inlet : String) : inputs.collection inlet = inputs'.collection inlet := by
  simp only [Inputs.collection, same inlet]

theorem main : inputs.main = inputs'.main := same.collection mainInlet

theorem passThrough : passThrough inputs = passThrough inputs' := by
  simp only [BuildingWorkflow.passThrough, same mainInlet, same.main]

theorem evaluateProperty (o : PropertyOptions) : o.evaluate inputs = o.evaluate inputs' := by
  simp only [PropertyOptions.evaluate, PropertyOptions.valueFor, same.main, same.single?]

theorem evaluateAnalysis (o : AnalysisOptions) : o.evaluate inputs = o.evaluate inputs' := by
  simp only [AnalysisOptions.evaluate, AnalysisOptions.report, same.main, same.collection]

theorem evaluateExport (o : ExportOptions) (help : Collaborators) :
    o.evaluate inputs help = o.evaluate inputs' help := by
  simp only [ExportOptions.evaluate, ExportOptions.evaluateText, ExportOptions.evaluateNative,
    ExportOptions.request, same.main]

theorem evaluate (options : NodeOptions) (help : Collaborators) :
    options.evaluate inputs help = options.evaluate inputs' help := by
  have main := same.main
  cases options with
  | source _ | parameter _ => rfl
  | geometry o => simp only [NodeOptions.evaluate, GeometryOptions.evaluate, main]
  | filter o => simp only [NodeOptions.evaluate, FilterOptions.evaluate, main]
  | transform o => simp only [NodeOptions.evaluate, TransformOptions.evaluate, main]
  | quantity o => simp only [NodeOptions.evaluate, QuantityOptions.evaluate, main]
  | property o => simp only [NodeOptions.evaluate, same.evaluateProperty]
  | classification o => simp only [NodeOptions.evaluate, ClassificationOptions.evaluate, main]
  | spatial o => simp only [NodeOptions.evaluate, SpatialOptions.evaluate, main, same.collection]
  | relationship o => simp only [NodeOptions.evaluate, RelationshipOptions.evaluate, main]
  | analysis o => simp only [NodeOptions.evaluate, same.evaluateAnalysis]
  | exporter o => simp only [NodeOptions.evaluate, same.evaluateExport]
  | watch _ | viewer _ => simp only [NodeOptions.evaluate, same.passThrough]

theorem result? (engine : Engine) (node : Node) :
    engine.result? node inputs = engine.result? node inputs' := by
  simp only [Engine.result?, Collaborators.result?, same.evaluate]

end Inputs.Alike

end BuildingWorkflow
