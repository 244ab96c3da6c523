import BuildingWorkflow.Element.Basic
import BuildingWorkflow.Text.Case

/-!
Building models: a header and the elements.
-/
namespace BuildingWorkflow

inductive SchemaVersion
  | ifc2x3
  | ifc4
  | ifc4x1
  | ifc4x2
  | ifc4x3
deriving DecidableEq

namespace SchemaVersion

def all : List SchemaVersion := [ifc2x3, ifc4, ifc4x1, ifc4x2, ifc4x3]

def name : SchemaVersion → String
  | ifc2x3 => "IFC2X3"
  | ifc4 => "IFC4"
  | ifc4x1 => "IFC4X1"
  | ifc4x2 => "IFC4X2"
  | ifc4x3 => "IFC4X3"

def ofName? (name : String) : Option SchemaVersion := all.find? (·.name == name)

/-- The version that a text names, the most special one first. Case, blanks and underscores do not
count; a text that names none stands for the fourth version. -/
def ofText (s : String) : SchemaVersion :=
  let s := without (fun c => c == ' ' || c == '_') (upper s)
  if hasPart s "IFC4X3" then ifc4x3
  else if hasPart s "IFC4X2" then ifc4x2
  else if hasPart s "IFC4X1" then ifc4x1
  else if hasPart s "IFC4" then ifc4
  else if hasPart s "IFC2" then ifc2x3
  else ifc4

end SchemaVersion

/-- The header of a building project, with values as its file gives them. -/
structure ProjectInfo where
  globalId : Value
  name : Value
  description : Value

structure Model where
  id : String
  name : String
  schema : SchemaVersion
  elements : List Element
  counts : OrderedMap Int
  /-- The file from which the model was read. -/
  sourcePath : Option String
  project : Option ProjectInfo

/-- How often each name occurs, in order of first appearance. -/
def countNames (names : List String) : OrderedMap Int :=
  names.foldl (fun counts name => counts.update name 0 (· + 1)) .empty

/-- The counts of a model: those that are given, or those of its elements when none are. -/
def elementCounts (given : OrderedMap Int) (elements : List Element) : OrderedMap Int :=
  if given.isEmpty then countNames (elements.map Element.type) else given

namespace Model

/-- A model from its parts, with the counts of its elements when none are given. -/
def create (id name : String) (schema : SchemaVersion) (elements : List Element)
    (counts : OrderedMap Int) (sourcePath : Option String) (project : Option ProjectInfo) : Model :=
  ⟨id, name, schema, elements, elementCounts counts elements, sourcePath, project⟩

/-- The header of a model, without its elements. -/
def summary (m : Model) : Value :=
  .map [("id", .text m.id), ("name", .text m.name), ("schema", .text m.schema.name),
    ("total_elements", .int m.elements.length),
    ("element_counts", .map (m.counts.map Value.int).entries)]

end Model

end BuildingWorkflow
