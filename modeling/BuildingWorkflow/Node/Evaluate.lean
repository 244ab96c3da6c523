import BuildingWorkflow.Node.Analysis
import BuildingWorkflow.Node.Classification
import BuildingWorkflow.Node.Export
import BuildingWorkflow.Node.Filter
import BuildingWorkflow.Node.Observation
import BuildingWorkflow.Node.Parameter
import BuildingWorkflow.Node.Property
import BuildingWorkflow.Node.Quantity
import BuildingWorkflow.Node.Selection
import BuildingWorkflow.Node.Spatial

/-!
Evaluation of one node.

Two kinds of nodes need help from outside the graph: sources ask a provider for a model, and native
exports ask a writer for a payload. Whoever is asked may also fail or never answer, and the node
then does the same.
-/
namespace BuildingWorkflow

/-- What comes back from a collaborator. -/
inductive Answer (α : Type)
  | value (a : α)
  | raised (fault : Fault)
  /-- There will never be an answer. -/
  | silent

namespace Answer

variable {α β : Type}

def bind (answer : Answer α) (f : α → Answer β) : Answer β :=
  match answer with
  | value a => f a
  | raised fault => raised fault
  | silent => silent

instance : Monad Answer where
  pure := value
  bind := bind

def ofExcept : Except Fault α → Answer α
  | .ok a => value a
  | .error fault => raised fault

/-- A fault turned into another one; a value and silence stay. -/
def mapFault (f : Fault → Fault) : Answer α → Answer α
  | raised fault => raised (f fault)
  | answer => answer

end Answer

/-- Who is asked for models, by name or for the latest one, and for payloads. -/
structure Collaborators where
  provider : Option String → Answer Model
  writer : Option (ExportRequest → Answer ByteArray)
  /-- Whether the writer works on a format aside while other nodes go on. -/
  writesAside : ExportFormat → Bool := fun _ => false

/-- The model is the whole of what a source feeds into the graph. -/
def SourceOptions.evaluate (options : SourceOptions) (help : Collaborators) :
    Answer NodeResult := do
  let model ← help.provider options.model
  return .elements ⟨model.elements, some model⟩

namespace ExportOptions

def evaluateNative (options : ExportOptions) (inputs : Inputs) (help : Collaborators) :
    Answer NodeResult :=
  match help.writer with
  | none => .raised (.exportFailed (Choice.name options.format) "no model writer configured")
  | some write => do
      let request ← Answer.ofExcept (options.request inputs)
      let payload ← (write request).mapFault options.failure
      return options.delivered payload

def evaluate (options : ExportOptions) (inputs : Inputs) (help : Collaborators) :
    Answer NodeResult :=
  if options.format.textual then Answer.ofExcept (options.evaluateText inputs)
  else options.evaluateNative inputs help

end ExportOptions

namespace NodeOptions

/-- The result of a node with these options on these inputs. -/
def evaluate (options : NodeOptions) (inputs : Inputs) (help : Collaborators) :
    Answer NodeResult :=
  match options with
  | source o => o.evaluate help
  | parameter o => .ofExcept o.evaluate
  | geometry o => .ofExcept (o.evaluate inputs)
  | filter o => .ofExcept (o.evaluate inputs)
  | transform o => .ofExcept (o.evaluate inputs)
  | quantity o => .ofExcept (o.evaluate inputs)
  | property o => .ofExcept (o.evaluate inputs)
  | classification o => .ofExcept (o.evaluate inputs)
  | spatial o => .ofExcept (o.evaluate inputs)
  | relationship o => .ofExcept (o.evaluate inputs)
  | analysis o => .ofExcept (o.evaluate inputs)
  | exporter o => o.evaluate inputs help
  | watch _ => .ofExcept (passThrough inputs)
  | viewer _ => .ofExcept (passThrough inputs)

/-- Whether the result is there as soon as it is asked for: nothing is worked out aside. -/
def atOnce (options : NodeOptions) (inputs : Inputs) (help : Collaborators) : Bool :=
  match options with
  | source _ | parameter _ | watch _ | viewer _ => true
  | exporter o =>
      !o.format.textual && (help.writer.isNone || !help.writesAside o.format ||
        (o.request inputs).toOption.isNone)
  | _ => false

/-- What evaluating the node hands to the writer, if anything. -/
def request? : NodeOptions → Inputs → Option ExportRequest
  | exporter o, inputs => if o.format.textual then none else (o.request inputs).toOption
  | _, _ => none

end NodeOptions

end BuildingWorkflow
