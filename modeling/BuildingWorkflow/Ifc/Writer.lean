import BuildingWorkflow.Ifc.Worksheet
import BuildingWorkflow.Node.Evaluate

/-!
The writer of native files.

Building models are written by editing a copy of the file that the model was read from, tables as
workbooks. Other formats are not written here.
-/
namespace BuildingWorkflow

/-- How files are opened and turned into bytes. -/
structure FileAccess where
  openFile : String → FileContent
  fileBytes : IfcFile → ByteArray
  workbookBytes : Workbook → ByteArray

namespace FileAccess

/-- The edits of the file of a model that write the property sets of some elements, and the file
after them. -/
def editModel (files : FileAccess) (request : ExportRequest) : Except Fault (List Edit × IfcFile) :=
  match (request.model.bind Model.sourcePath).filter (· != "") with
  | none => .error (.exportFailed "ifc" "source model file is not available")
  | some path =>
      match files.openFile path with
      | .error reason => .error (.exportFailed "ifc" ("cannot open source model: " ++ reason))
      | .ok file => file.applyElements request.elements

/-- The payload for a request. -/
def payload (files : FileAccess) (request : ExportRequest) : Except Fault ByteArray :=
  match request.format with
  | .ifc => do
      let (_, file) ← files.editModel request
      return files.fileBytes file
  | .excel => (Workbook.ofElements request.elements).map files.workbookBytes
  | format =>
      .error (.exportFailed (Choice.name format) "format not supported by the native writer")

/-- The formats that take a while to write. -/
def writesAside : ExportFormat → Bool
  | .ifc | .excel => true
  | _ => false

def writer (files : FileAccess) (request : ExportRequest) : Answer ByteArray :=
  Answer.ofExcept (files.payload request)

end FileAccess

end BuildingWorkflow
