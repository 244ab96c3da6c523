import BuildingWorkflow.Fault.Record
import BuildingWorkflow.Ifc.Writer
import BuildingWorkflow.Run.Report
import BuildingWorkflow.Service.Import

/-!
The service over the web: models are imported, listed and removed, and graphs are validated and run.
-/
namespace BuildingWorkflow

/-- How a request is answered. -/
inductive Reply
  | body (content : Value)
  /-- A body that comes with a status of its own. -/
  | rejected (status : Nat) (content : Value)
  /-- A refusal with a text. -/
  | refused (status : Nat) (detail : String)
  /-- A fault that nobody expected. -/
  | crashed (fault : Fault)

/-- What the service works with. -/
structure Service where
  settings : Settings
  workspace : Workspace
  fileBytes : IfcFile → ByteArray
  workbookBytes : Workbook → ByteArray

namespace Service

def registry (s : Service) : Registry := s.workspace.registry

/-- Files are opened where they lie on the disk. -/
def files (s : Service) : FileAccess where
  openFile := s.workspace.disk.contentAt
  fileBytes := s.fileBytes
  workbookBytes := s.workbookBytes

/-- Sources take their models from the registry, exports go to the writer of native files. -/
def engine (s : Service) : Engine where
  help :=
    { provider := fun name => Answer.ofExcept (s.registry.get name)
      writer := some s.files.writer
      writesAside := FileAccess.writesAside }
  slots := s.settings.maxConcurrency.toNat
  timeout := s.settings.nodeTimeout

/-- A run of the graph of a document. -/
def execute (s : Service) (document : Value) : Except Fault RunEnding := do
  return (← s.engine.runDraft (← Draft.ofDocument document) .never).1

/-- A graph that is rejected answers with its issues. -/
def rejection (fault : Fault) : Reply := .rejected 422 (.map (BuildingWorkflow.rejection fault))

/-- Runs a graph once; the report holds the elements of results in full. -/
def run (s : Service) (document : Value) : Reply :=
  match s.execute document with
  | .error fault => if fault.issues?.isSome then rejection fault else .crashed fault
  | .ok (.reported report) => .body (.map (report.record NodeResult.record))
  | .ok (.faulty fault) => .refused 500 fault.report
  | .ok .endless => .body .null

/-- Checks a graph without running it. -/
def validate (document : Value) : Reply :=
  match Workflow.ofDocument document with
  | .error fault => if fault.issues?.isSome then rejection fault else .crashed fault
  | .ok w => .body (.map [("valid", .bool true), ("order", Fault.texts w.plan.order)])

def inletRecord (inlet : Inlet) : Value :=
  .map [("name", .text inlet.name), ("multiple", .bool inlet.multiple)]

def kindRecord (kind : NodeKind) : Value :=
  .map [("kind", .text kind.name), ("inputs", .list (kind.inlets.map inletRecord))]

/-- The kinds of nodes and their inlets. -/
def nodeKinds : Value := .list (NodeKind.all.map kindRecord)

def models (s : Service) : Value := s.registry.overview

def register (s : Service) (m : Model) : Service :=
  { s with workspace := { s.workspace with registry := s.registry.register m } }

/-- Drops a model. -/
def remove (s : Service) (name : String) : Reply × Service :=
  let (found, registry) := s.registry.remove name
  (if found then .body (.map [("removed", .text name)]) else .refused 404 "Model not found",
    { s with workspace := { s.workspace with registry := registry } })

/-- Imports an uploaded file, if its name says that it is one. -/
def importModel (s : Service) (given : Option String) (file : StoredFile) (name : Option String) :
    Reply × Service :=
  match given.filter fun given => endsWith (lower given) ".ifc" with
  | none => (.refused 400 "File must be IFC format", s)
  | some given =>
      let (result, workspace) := s.workspace.importUpload s.settings given file name
      let reply := match result with
        | .ok result => .body (.map result.record)
        | .error fault => if fault.isImportFault then .refused 400 fault.report else .crashed fault
      (reply, { s with workspace := workspace })

end Service

end BuildingWorkflow
