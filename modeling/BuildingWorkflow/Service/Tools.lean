import BuildingWorkflow.Service.Rest

/-!
The tools that the service offers to assistants.

A tool answers with data or with a sentence; whatever goes wrong is told in a sentence.
-/
namespace BuildingWorkflow

structure Tool where
  name : String
  description : String

namespace Tool

def loadModel : Tool where
  name := "ifc_flow_load_model"
  description := "Load an IFC file into the model registry. " ++
    "Returns the model id used by source nodes."

def listModels : Tool where
  name := "ifc_flow_list_models"
  description := "List the models currently loaded in the registry."

def listNodeKinds : Tool where
  name := "ifc_flow_list_node_kinds"
  description := "List the node kinds a workflow graph may use, with their input ports."

def runWorkflow : Tool where
  name := "ifc_flow_run_workflow"
  description := "Run a workflow graph (\x7bnodes, edges\x7d) once and return the result " ++
    "of every node. Validation problems are returned without running anything."

def all : List Tool := [loadModel, listModels, listNodeKinds, runWorkflow]

def record (tool : Tool) : Value :=
  .map [("name", .text tool.name), ("description", .text tool.description)]

end Tool

/-- How a tool answers. -/
inductive ToolReply
  | data (content : Value)
  | sentence (s : String)

namespace Service

/-- An argument that has to be there. -/
def argument (arguments : Bag) (name : String) : Except Fault Value :=
  match arguments.lookup name with
  | some v => .ok v
  | none => .error (.missingKey name)

/-- A path given as an argument. -/
def pathArgument : Value → Except Fault String
  | .text s => .ok (Path.normal s)
  | v => .error (.foreign "TypeError"
      s!"expected str, bytes or os.PathLike object, not {v.kindName}")

def textArgument? (arguments : Bag) (name : String) : Option String :=
  match arguments.lookup name with
  | none | some .null => none
  | some v => some v.display

def status (name : String) : String × Value := ("status", .text name)

/-- Loads a file that lies on disk. -/
def loadTool (s : Service) (arguments : Bag) : Except Fault (ToolReply × Service) := do
  let path ← pathArgument (← argument arguments "file_path")
  match s.workspace.disk.find path with
  | .nothing => return (.sentence ("File not found: " ++ path), s)
  | _ =>
      let (result, workspace) :=
        s.workspace.importFile s.settings path (textArgument? arguments "model_id")
      let record := status "success" :: (← result).record
      return (.data (.map record), { s with workspace := workspace })

/-- Runs a graph; the elements of results are told by their identifiers unless they are asked
for. -/
def runTool (s : Service) (arguments : Bag) : Except Fault ToolReply := do
  let document ← argument arguments "graph"
  match s.execute document with
  | .error fault =>
      if fault.issues?.isSome then
        return .data (.map (status "invalid" :: BuildingWorkflow.rejection fault))
      else throw fault
  | .ok (.reported report) =>
      let full := (arguments.lookup "include_elements").elim false Value.truthy
      let write := if full then NodeResult.record else NodeResult.brief
      return .data (.map (status (if report.succeeded then "success" else "partial") ::
        report.record write))
  | .ok (.faulty fault) =>
      return .data (.map [status "error", ("message", .text fault.report)])
  | .ok .endless => return .data .null

/-- A call of a tool by its name. -/
def callTool (s : Service) (name : String) (arguments : Bag) : ToolReply × Service :=
  let called : Except Fault (ToolReply × Service) :=
    if name = Tool.loadModel.name then s.loadTool arguments
    else if name = Tool.listModels.name then .ok (.data s.models, s)
    else if name = Tool.listNodeKinds.name then .ok (.data nodeKinds, s)
    else if name = Tool.runWorkflow.name then (s.runTool arguments).map (·, s)
    else .ok (.sentence ("Unknown tool: " ++ name), s)
  match called with
  | .ok answer => answer
  | .error fault => (.sentence ("Error: " ++ fault.report), s)

end Service

end BuildingWorkflow
