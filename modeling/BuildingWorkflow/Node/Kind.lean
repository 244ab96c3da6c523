import BuildingWorkflow.Fault
import BuildingWorkflow.Options.Scalar
import BuildingWorkflow.Text.Parts

/-!
The kinds of nodes and their inlets.

Every node has one outlet. Its inlets depend on its kind; most take one edge, and those of the
observing kinds take any number.
-/
namespace BuildingWorkflow

inductive NodeKind
  | source
  | parameter
  | geometry
  | filter
  | transform
  | quantity
  | property
  | classification
  | spatial
  | relationship
  | analysis
  | exporter
  | watch
  | viewer
deriving DecidableEq

/-- Where edges lead into a node; an inlet that is not multiple takes at most one edge. -/
structure Inlet where
  name : String
  multiple : Bool := false
deriving DecidableEq

def mainOutlet : String := "output"
def mainInlet : String := "input"
def referenceInlet : String := "reference"
def valueInlet : String := "value"

namespace NodeKind

def all : List NodeKind :=
  [source, parameter, geometry, filter, transform, quantity, property, classification, spatial,
    relationship, analysis, exporter, watch, viewer]

def name : NodeKind → String
  | source => "source"
  | parameter => "parameter"
  | geometry => "geometry"
  | filter => "filter"
  | transform => "transform"
  | quantity => "quantity"
  | property => "property"
  | classification => "classification"
  | spatial => "spatial"
  | relationship => "relationship"
  | analysis => "analysis"
  | exporter => "export"
  | watch => "watch"
  | viewer => "viewer"

instance : Choice NodeKind := ⟨all, name⟩

/-- A text without the ending that canvas documents give the names of kinds. -/
def withoutNodeEnding (s : String) : String :=
  if endsWith s "Node" then String.ofList (s.toList.take (s.length - 4)) else s

/-- The kind that a text names: by its name or another one in use, in any case. -/
def ofText (s : String) : Except Fault NodeKind :=
  match lower (withoutNodeEnding (trim s)) with
  | "ifc" | "model" => .ok source
  | "param" => .ok parameter
  | name => (Choice.ofName? name : Option NodeKind).elim (.error (.unknownKind s)) .ok

/-- The inlets of a kind, in order. -/
def inlets : NodeKind → List Inlet
  | source | parameter => []
  | property => [⟨mainInlet, false⟩, ⟨valueInlet, false⟩]
  | spatial | analysis => [⟨mainInlet, false⟩, ⟨referenceInlet, false⟩]
  | watch | viewer => [⟨mainInlet, true⟩]
  | _ => [⟨mainInlet, false⟩]

def inlet? (kind : NodeKind) (name : String) : Option Inlet :=
  kind.inlets.find? (·.name == name)

end NodeKind

end BuildingWorkflow
