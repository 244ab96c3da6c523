import BuildingWorkflow.Element.Lookup
import BuildingWorkflow.Node.Inputs
import BuildingWorkflow.Node.Options
import BuildingWorkflow.Text.Csv
import BuildingWorkflow.Value.Json

/-!
Export nodes: tables as text, and requests to a writer of native files.

A table has one record for each element and one field for each column. Its columns are the
configured ones, or the properties of the first element when none are configured.
-/
namespace BuildingWorkflow

/-- A job for the writer of native files. -/
structure ExportRequest where
  elements : List Element
  fileName : String
  format : ExportFormat
  /-- The model that the elements came from, if it is known. -/
  model : Option Model

namespace ExportFormat

def extension : ExportFormat → String
  | csv => "csv"
  | json => "json"
  | excel => "xlsx"
  | glb => "glb"
  | ifc => "ifc"

/-- Whether the format is a text that is written without help. -/
def textual : ExportFormat → Bool
  | csv | json => true
  | excel | glb | ifc => false

end ExportFormat

/-- The columns of a table of elements. -/
def tableColumns (configured : List String) (elements : List Element) : List String :=
  match configured, elements with
  | [], first :: _ => first.properties.keys
  | columns, _ => columns

/-- The value of an element in a column; null when it has none. -/
def cellValue (e : Element) (column : String) : Value :=
  ((e.resolvePath? column).map Found.value).getD .null

/-- A value as a field; null is an empty field. -/
def fieldOf : Value → String
  | .null => ""
  | v => v.display

def csvTable (columns : List String) (elements : List Element) : String :=
  Csv.table (columns ::
    elements.map fun e => columns.map fun column => fieldOf (cellValue e column))

/-- The record of an element with its columns as names, each once. -/
def rowValue (columns : List String) (e : Element) : Value :=
  .map (OrderedMap.ofList (columns.map fun column => (column, cellValue e column))).entries

def jsonTable (columns : List String) (elements : List Element) : String :=
  (Value.list (elements.map (rowValue columns))).json

namespace ExportOptions

def fullName (options : ExportOptions) : String :=
  options.fileName ++ "." ++ options.format.extension

/-- The table as text; an empty collection has no header. -/
def tableText (options : ExportOptions) (elements : List Element) : String :=
  let columns := tableColumns options.columns elements
  match options.format, elements with
  | .json, elements => jsonTable columns elements
  | _, [] => ""
  | _, elements => csvTable columns elements

def evaluateText (options : ExportOptions) (inputs : Inputs) : Except Fault NodeResult := do
  let source ← inputs.main
  return .text (options.tableText source.elements) (Choice.name options.format) options.fullName

/-- What the writer is asked for. -/
def request (options : ExportOptions) (inputs : Inputs) : Except Fault ExportRequest := do
  let source ← inputs.main
  return ⟨source.elements, options.fileName, options.format, source.model⟩

/-- The failure of an export for a fault of the writer. -/
def failure (options : ExportOptions) : Fault → Fault
  | .exportFailed format reason => .exportFailed format reason
  | fault => .exportFailed (Choice.name options.format) fault.report

def delivered (options : ExportOptions) (payload : ByteArray) : NodeResult :=
  .binary payload (Choice.name options.format) options.fullName

end ExportOptions

end BuildingWorkflow
