import BuildingWorkflow.OrderedMap
import BuildingWorkflow.Value.Text

/-!
Why something could not be done.

A fault is a cause with what is known of it. Its message, its details and the names under which it
is reported follow from the cause. Faults of evaluating a node are recorded as that node's result;
faults of a graph are lists of issues and keep the graph from running at all.
-/
namespace BuildingWorkflow

/-- One structural problem of a submitted graph, at a node or an edge if it has a place. -/
structure Issue where
  code : String
  message : String
  node : Option String := none
  edge : Option Nat := none
deriving DecidableEq

/-- Why a path of the disk cannot be used. -/
inductive PathFault
  | nul
  | nameTooLong
  /-- A folder stands where a file is to be. -/
  | folder
  /-- A file stands where a folder is to be. -/
  | taken
  /-- The path goes on behind a file. -/
  | noFolder
deriving DecidableEq

inductive Fault
  /-- A fault of the domain that is of no more special kind. -/
  | domain (message : String) (details : List (String × Value))
  /-- The engine failed outside any single node. -/
  | execution (message : String) (details : List (String × Value))
  /-- A model could not be imported. -/
  | importing (message : String) (details : List (String × Value))
  /-- The function of a node failed. -/
  | node (message : String) (details : List (String × Value))
  | invalidInput (inlet expected actual : String)
  | unsupportedOperator (filter operator : String) (supported : List String)
  | timeout (node : String) (seconds : Value)
  | modelNotFound (id : Option String)
  | exportFailed (format reason : String)
  | invalidGraph (issues : List Issue)
  | cycle (node : String) (path : List String)
  | unknownKind (kind : String)
  | alreadyRecorded (node : String)
  | fileNotFound (path : String)
  | unreadableFile (path reason : String)
  | unsupportedSchema (schema : String) (supported : List String)
  /-- A whole number beyond the largest float. -/
  | integerTooLarge
  | wholeOfInfinity
  | wholeOfNan
  | unknownSchemaVersion (name : String)
  | missingKey (key : String)
  /-- A cell text that a worksheet cannot hold. -/
  | illegalCell (text : String)
  | unusablePath (cause : PathFault) (path : String)
  /-- What a collaborator reports, under the name of its kind of failure. -/
  | foreign (kind message : String)

namespace PathFault

def message (path : String) : PathFault → String
  | nul => "embedded null byte"
  | nameTooLong => "[Errno 36] File name too long: " ++ quoted path
  | folder => "[Errno 21] Is a directory: " ++ quoted path
  | taken => "[Errno 17] File exists: " ++ quoted path
  | noFolder => "[Errno 20] Not a directory: " ++ quoted path

def name : PathFault → String
  | nul => "ValueError"
  | nameTooLong => "OSError"
  | folder => "IsADirectoryError"
  | taken => "FileExistsError"
  | noFolder => "NotADirectoryError"

end PathFault

namespace Fault

def cycleIssue (node : String) (path : List String) : Issue where
  code := "cycle"
  message := s!"Workflow contains a cycle at node '{node}': " ++ String.intercalate " -> " path
  node := some node

/-- The issues of a fault of a graph. -/
def issues? : Fault → Option (List Issue)
  | invalidGraph issues => some issues
  | cycle id path => some [cycleIssue id path]
  | _ => none

def summary (issues : List Issue) : String :=
  "Invalid workflow graph: " ++ String.intercalate "; " (issues.map Issue.message)

/-- The message without the details. -/
def message : Fault → String
  | domain message _ | execution message _ | importing message _ | node message _ => message
  | invalidInput inlet expected actual => s!"Port '{inlet}' expects {expected}, got {actual}"
  | unsupportedOperator filter operator _ =>
      s!"Operator '{operator}' is not supported for filter type '{filter}'"
  | timeout id seconds => s!"Node '{id}' timed out after " ++ seconds.display ++ " seconds"
  | modelNotFound id =>
      match id with
      | none | some "" => "No IFC model loaded. Load an IFC file first."
      | some id => s!"Model not found: {id}"
  | exportFailed format reason => s!"Export to {format} failed: {reason}"
  | invalidGraph issues => summary issues
  | cycle id path => summary [cycleIssue id path]
  | unknownKind kind => s!"Unknown node kind: {kind}"
  | alreadyRecorded id => s!"Result already recorded for node: {id}"
  | fileNotFound path => s!"IFC file not found: {path}"
  | unreadableFile path _ => s!"Failed to parse IFC file: {path}"
  | unsupportedSchema schema _ => s!"Unsupported IFC schema: {schema}"
  | integerTooLarge => "int too large to convert to float"
  | wholeOfInfinity => "cannot convert float infinity to integer"
  | wholeOfNan => "cannot convert float NaN to integer"
  | unknownSchemaVersion name => quoted name ++ " is not a valid IfcSchemaVersion"
  | missingKey key => quoted key
  | illegalCell text => s!"{text} cannot be used in worksheets."
  | unusablePath cause path => cause.message path
  | foreign _ message => message

def texts (items : List String) : Value := .list (items.map .text)

def details : Fault → List (String × Value)
  | domain _ details | execution _ details | importing _ details | node _ details => details
  | invalidInput inlet _ _ => [("port", .text inlet)]
  | unsupportedOperator _ _ supported => [("supported_operators", texts supported)]
  | timeout id seconds => [("node_id", .text id), ("timeout_seconds", seconds)]
  | exportFailed format _ => [("format", .text format)]
  | invalidGraph issues => [("issue_count", .int issues.length)]
  | cycle _ _ => [("issue_count", .int 1)]
  | unreadableFile _ reason => [("reason", .text reason)]
  | unsupportedSchema _ supported => [("supported_schemas", texts supported)]
  | _ => []

/-- The message, followed by the details if there are any. -/
def report (fault : Fault) : String :=
  if fault.details.isEmpty then fault.message
  else fault.message ++ " - " ++ (Value.map fault.details).literal

/-- The names under which a fault is reported, the most special one first. -/
def names : Fault → List String
  | domain _ _ => ["DomainError"]
  | execution _ _ => ["ExecutionError", "DomainError"]
  | importing _ _ => ["IfcImportError", "DomainError"]
  | node _ _ => ["NodeExecutionError", "DomainError"]
  | invalidInput _ _ _ => ["InvalidNodeInputError", "NodeExecutionError", "DomainError"]
  | unsupportedOperator _ _ _ => ["UnsupportedOperatorError", "NodeExecutionError", "DomainError"]
  | timeout _ _ => ["NodeTimeoutError", "NodeExecutionError", "DomainError"]
  | modelNotFound _ => ["ModelNotFoundError", "NodeExecutionError", "DomainError"]
  | exportFailed _ _ => ["ExportError", "NodeExecutionError", "DomainError"]
  | invalidGraph _ => ["GraphValidationError", "DomainError"]
  | cycle _ _ => ["CycleDetectedError", "GraphValidationError", "DomainError"]
  | unknownKind _ => ["UnknownNodeKindError", "DomainError"]
  | alreadyRecorded _ => ["ResultAlreadyRecordedError", "DomainError"]
  | fileNotFound _ => ["IfcFileNotFoundError", "IfcImportError", "DomainError"]
  | unreadableFile _ _ => ["IfcParseError", "IfcImportError", "DomainError"]
  | unsupportedSchema _ _ => ["UnsupportedIfcSchemaError", "IfcImportError", "DomainError"]
  | integerTooLarge | wholeOfInfinity => ["OverflowError"]
  | wholeOfNan | unknownSchemaVersion _ => ["ValueError"]
  | missingKey _ => ["KeyError"]
  | illegalCell _ => ["IllegalCharacterError"]
  | unusablePath cause _ => [cause.name]
  | foreign kind _ => [kind]

def name (fault : Fault) : String := fault.names.headD ""

/-- Faults that evaluating a node is expected to run into. -/
def isNodeFault : Fault → Bool
  | node _ _ | invalidInput _ _ _ | unsupportedOperator _ _ _ | timeout _ _ | modelNotFound _
  | exportFailed _ _ => true
  | _ => false

def isImportFault : Fault → Bool
  | importing _ _ | fileNotFound _ | unreadableFile _ _ | unsupportedSchema _ _ => true
  | _ => false

end Fault

end BuildingWorkflow
