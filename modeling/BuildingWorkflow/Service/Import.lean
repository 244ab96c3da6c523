import BuildingWorkflow.Model.Registry
import BuildingWorkflow.Service.Disk
import BuildingWorkflow.Settings
import BuildingWorkflow.Text.Case

/-!
Import of files into the registry.

A file is imported where it lies, or uploaded: then it is stored under its own name in the folder
for uploads first. An import that fails leaves the registry as it was, but an upload stays on the
disk.
-/
namespace BuildingWorkflow

/-- The models that are loaded, and the disk that they come from. -/
structure Workspace where
  registry : Registry
  disk : Disk

/-- What an import reports of the model that it registered. -/
structure ImportResult where
  modelId : String
  modelName : String
  schema : SchemaVersion
  elementCount : Nat
  counts : OrderedMap Int
  path : Option String

def Model.importResult (m : Model) : ImportResult where
  modelId := m.id
  modelName := m.name
  schema := m.schema
  elementCount := m.elements.length
  counts := m.counts
  path := m.sourcePath

def ImportResult.record (r : ImportResult) : List (String × Value) :=
  [("model_id", .text r.modelId), ("model_name", .text r.modelName),
    ("schema", .text r.schema.name), ("element_count", .int r.elementCount),
    ("element_counts", .map (r.counts.map Value.int).entries),
    ("file_path", r.path.elim .null .text)]

/-- A file that is larger than the settings allow is refused. -/
def checkSize (settings : Settings) (size : Nat) (name : String) : Except Fault Unit :=
  if settings.maxFileSize < size then
    .error (.importing ("IFC file too large: " ++ name)
      [("size_bytes", .int size), ("limit_bytes", .int settings.maxFileSize)])
  else .ok ()

namespace Workspace

def empty : Workspace := ⟨.empty, .empty⟩

/-- The model of a stored file. -/
def load (settings : Settings) (w : Workspace) (path : String) (name : Option String) :
    Except Fault Model :=
  match w.disk.find path with
  | .nothing => .error (.fileNotFound path)
  | .nameTooLong => .error (.unusablePath .nameTooLong path)
  | .folder => loadModel path .unreadable name
  | .file file => do
      checkSize settings file.size (Path.fileName path)
      loadModel path file.content name

/-- Reads a stored file and registers its model. -/
def importFile (settings : Settings) (w : Workspace) (path : String) (name : Option String) :
    Except Fault ImportResult × Workspace :=
  match w.load settings path name with
  | .error fault => (.error fault, w)
  | .ok m => (.ok m.importResult, { w with registry := w.registry.register m })

def uploadSuffixes : List String := [".ifc"]

/-- Where an upload is stored; only files of building models of a limited size are taken. -/
def uploadPath (settings : Settings) (given : String) (size : Nat) : Except Fault String := do
  let name := Path.fileName given
  if !uploadSuffixes.contains (lower (Path.suffix name)) then
    throw (.importing ("Not an IFC file: " ++ given) [])
  checkSize settings size name
  return Path.inFolder settings.uploadFolder name

/-- Stores a file, in a folder that is made if need be; whether it could be stored. -/
def store (w : Workspace) (folder path : String) (file : StoredFile) :
    Except Fault Unit × Workspace :=
  match w.disk.makeFolder folder with
  | .error fault => (.error fault, w)
  | .ok disk =>
      match disk.write path file with
      | .error fault => (.error fault, { w with disk := disk })
      | .ok disk => (.ok (), { w with disk := disk })

/-- Stores an upload and imports it. -/
def importUpload (settings : Settings) (w : Workspace) (given : String) (file : StoredFile)
    (name : Option String) : Except Fault ImportResult × Workspace :=
  match uploadPath settings given file.size with
  | .error fault => (.error fault, w)
  | .ok path =>
      match w.store (Path.normal settings.uploadFolder) path file with
      | (.error fault, w) => (.error fault, w)
      | (.ok (), w) => w.importFile settings path name

end Workspace

end BuildingWorkflow
