import BuildingWorkflow.Element.Classified
import BuildingWorkflow.Node.Inputs
import BuildingWorkflow.Node.Options

/-!
Classification nodes: references are read from the property sets or assigned.
-/
namespace BuildingWorkflow

namespace Element

/-- Attaches the reference that the property sets hold. -/
def readClassification (e : Element) : Element :=
  { e with classifications := e.classification?.toList }

/-- The fields under which an assigned reference is written. -/
def referenceFields (c : Classification) : List (String × Value) :=
  [("System", .text c.system), ("Code", .text c.code), ("Name", .text c.system),
    ("ItemReference", .text c.code), ("Description", .text c.description)]

/-- Attaches a reference and writes it into the set of references. -/
def assignClassification (e : Element) (c : Classification) : Element :=
  { e with
    psets := e.psets.update classificationSet .empty fun values =>
      (referenceFields c).foldl (fun values (name, v) => values.insert name v) values
    classifications := [c] }

end Element

/-- The reference that a node assigns. -/
def ClassificationOptions.reference (options : ClassificationOptions) : Classification :=
  let system := systemName options.system
  ⟨system, options.code, system ++ " classification " ++ options.code⟩

def ClassificationOptions.evaluate (options : ClassificationOptions) (inputs : Inputs) :
    Except Fault NodeResult := do
  let source ← inputs.main
  let edit : Element → Element := match options.action with
    | .get => Element.readClassification
    | .set => (·.assignClassification options.reference)
  return .elements (source.withElements (source.elements.map edit))

end BuildingWorkflow
