import BuildingWorkflow.Proofs.Model.Registry
import BuildingWorkflow.Service.Import

/-!
Imports of files on one registry.

What a call reads is settled by the settings, the disk and the call: a model, or a fault. The
registry has no part in it and is touched only when the model is there. So a call that fails leaves
the registry as it was, and a call that succeeds registers what it read and reports that. After any
calls the registry is what the registrations of those that succeeded make of it.

The disk may change between two calls, so each is made with the disk that it finds.
-/
namespace BuildingWorkflow

/-! ## Reading a file -/

/-- The fault of a file that is too large. -/
def oversize (settings : Settings) (size : Nat) (name : String) : Fault :=
  .importing ("IFC file too large: " ++ name)
    [("size_bytes", .int size), ("limit_bytes", .int settings.maxFileSize)]

section Reading

variable (settings : Settings) (disk : Disk) (path : String)

/-- Why no model is read from a path of a disk. -/
inductive Unreadable : Fault → Prop
  | missing (found : disk.find path = .nothing) : Unreadable (.fileNotFound path)
  | nameTooLong (found : disk.find path = .nameTooLong) :
      Unreadable (.unusablePath .nameTooLong path)
  | folder (found : disk.find path = .folder) :
      Unreadable (.unreadableFile path "Unable to open file for reading")
  | tooLarge {file : StoredFile} (found : disk.find path = .file file)
      (large : settings.maxFileSize < file.size) :
      Unreadable (oversize settings file.size (Path.fileName path))
  | unparsable {file : StoredFile} {reason : String} (found : disk.find path = .file file)
      (fits : file.size ≤ settings.maxFileSize) (broken : file.content = .error reason) :
      Unreadable (.unreadableFile path reason)
  | unsupported {file : StoredFile} {content : IfcFile} (found : disk.find path = .file file)
      (fits : file.size ≤ settings.maxFileSize) (opens : file.content = .ok content)
      (other : content.schema ∉ IfcFile.supportedSchemas) :
      Unreadable (.unsupportedSchema content.schema IfcFile.supportedSchemas)
  | headless {file : StoredFile} {content : IfcFile} {fault : Fault}
      (found : disk.find path = .file file) (fits : file.size ≤ settings.maxFileSize)
      (opens : file.content = .ok content) (known : content.schema ∈ IfcFile.supportedSchemas)
      (header : content.projectInfo = .error fault) : Unreadable fault

/-- The model of a file that a path of a disk leads to. It goes by the name that is given for it,
unless there is none or the empty one, and then by that of the file. -/
inductive Reads (name : Option String) : Model → Prop
  | intro {file : StoredFile} {content : IfcFile} {project : Option ProjectInfo}
      (found : disk.find path = .file file) (fits : file.size ≤ settings.maxFileSize)
      (opens : file.content = .ok content) (known : content.schema ∈ IfcFile.supportedSchemas)
      (header : content.projectInfo = .ok project) :
      Reads name (.create ((name.filter (· != "")).getD (Path.fileName path)) (Path.fileName path)
        (.ofText content.schema) content.elements .empty (some path) project)

end Reading

section Load

variable {settings : Settings} {w : Workspace} {path : String}

theorem checkSize_of_le {size : Nat} (fits : size ≤ settings.maxFileSize) (name : String) :
    checkSize settings size name = .ok () := if_neg (by omega)

theorem checkSize_of_lt {size : Nat} (large : settings.maxFileSize < size) (name : String) :
    checkSize settings size name = .error (oversize settings size name) := if_pos large

theorem Unreadable.load_eq {fault : Fault} (h : Unreadable settings w.disk path fault)
    (name : Option String) : w.load settings path name = .error fault := by
  cases h with
  | missing found => simp only [Workspace.load, found]
  | nameTooLong found => simp only [Workspace.load, found]
  | folder found => simp only [Workspace.load, found]; rfl
  | tooLarge found large => simp only [Workspace.load, found, checkSize_of_lt large]; rfl
  | unparsable found fits broken =>
      simp only [Workspace.load, found, checkSize_of_le fits, broken]; rfl
  | unsupported found fits opens other =>
      have absent := Bool.eq_false_iff.mpr (mt List.contains_iff_mem.mp other)
      simp only [Workspace.load, found, checkSize_of_le fits, opens, loadModel, absent]
      rfl
  | headless found fits opens known header =>
      have present := List.contains_iff_mem.mpr known
      simp only [Workspace.load, found, checkSize_of_le fits, opens, loadModel, present, header]
      rfl

theorem Reads.load_eq {name : Option String} {m : Model}
    (h : Reads settings w.disk path name m) : w.load settings path name = .ok m := by
  obtain ⟨found, fits, opens, known, header⟩ := h
  have present := List.contains_iff_mem.mpr known
  simp only [Workspace.load, found, checkSize_of_le fits, opens, loadModel, present, header]
  rfl

/-- There is a model or there is a fault, and what is read says which. -/
theorem reads_or_unreadable (settings : Settings) (disk : Disk) (path : String)
    (name : Option String) :
    (∃ m, Reads settings disk path name m) ∨ ∃ fault, Unreadable settings disk path fault := by
  cases found : disk.find path with
  | nothing => exact .inr ⟨_, .missing found⟩
  | nameTooLong => exact .inr ⟨_, .nameTooLong found⟩
  | folder => exact .inr ⟨_, .folder found⟩
  | file file =>
      obtain large | fits := Int.lt_or_le settings.maxFileSize file.size
      · exact .inr ⟨_, .tooLarge found large⟩
      cases opens : file.content with
      | error reason => exact .inr ⟨_, .unparsable found fits opens⟩
      | ok content =>
          by_cases known : content.schema ∈ IfcFile.supportedSchemas
          · cases header : content.projectInfo with
            | error fault => exact .inr ⟨_, .headless found fits opens known header⟩
            | ok project => exact .inl ⟨_, .intro found fits opens known header⟩
          · exact .inr ⟨_, .unsupported found fits opens known⟩

theorem Reads.id_and_source {disk : Disk} {name : Option String} {m : Model}
    (h : Reads settings disk path name m) :
    m.id = (name.filter (· != "")).getD (Path.fileName path) ∧ m.sourcePath = some path := by
  cases h
  exact ⟨rfl, rfl⟩

theorem Reads.importFile_eq {name : Option String} {m : Model}
    (h : Reads settings w.disk path name m) : w.importFile settings path name =
      (.ok m.importResult, { w with registry := w.registry.register m }) := by
  simp only [Workspace.importFile, h.load_eq]

theorem Unreadable.importFile_eq {fault : Fault} (h : Unreadable settings w.disk path fault)
    (name : Option String) : w.importFile settings path name = (.error fault, w) := by
  simp only [Workspace.importFile, h.load_eq]

end Load

/-! ## Uploads -/

/-- A file that is uploaded, with its name and perhaps one for the model. -/
structure Upload where
  given : String
  file : StoredFile
  name : Option String

namespace Upload

/-- The name under which the file is stored. -/
def fileName (u : Upload) : String := Path.fileName u.given

/-- The path at which the file is stored. -/
def path (settings : Settings) (u : Upload) : String :=
  Path.inFolder settings.uploadFolder u.fileName

/-- An upload that is taken: it has the name of a building model, and it is not too large. -/
structure Taken (settings : Settings) (u : Upload) : Prop where
  suffix : lower (Path.suffix u.fileName) = ".ifc"
  fits : u.file.size ≤ settings.maxFileSize

/-- Why an upload is not imported. -/
inductive Refused (settings : Settings) (disk : Disk) (u : Upload) : Fault → Prop
  | wrongSuffix (other : lower (Path.suffix u.fileName) ≠ ".ifc") :
      Refused settings disk u (.importing ("Not an IFC file: " ++ u.given) [])
  | tooLarge (suffix : lower (Path.suffix u.fileName) = ".ifc")
      (large : settings.maxFileSize < u.file.size) :
      Refused settings disk u (oversize settings u.file.size u.fileName)
  | noFolder {fault : Fault} (taken : u.Taken settings)
      (failed : disk.makeFolder (Path.normal settings.uploadFolder) = .error fault) :
      Refused settings disk u fault
  | unwritten {made : Disk} {fault : Fault} (taken : u.Taken settings)
      (folder : disk.makeFolder (Path.normal settings.uploadFolder) = .ok made)
      (failed : made.write (u.path settings) u.file = .error fault) :
      Refused settings disk u fault
  | unread {made written : Disk} {fault : Fault} (taken : u.Taken settings)
      (folder : disk.makeFolder (Path.normal settings.uploadFolder) = .ok made)
      (stored : made.write (u.path settings) u.file = .ok written)
      (unreadable : Unreadable settings written (u.path settings) fault) :
      Refused settings disk u fault

/-- An upload that is stored, and the model that is then read. -/
structure Imported (settings : Settings) (disk : Disk) (u : Upload) (made written : Disk)
    (m : Model) : Prop where
  taken : u.Taken settings
  folder : disk.makeFolder (Path.normal settings.uploadFolder) = .ok made
  stored : made.write (u.path settings) u.file = .ok written
  reads : Reads settings written (u.path settings) u.name m

def run (settings : Settings) (w : Workspace) (u : Upload) :
    Except Fault ImportResult × Workspace :=
  w.importUpload settings u.given u.file u.name

variable {settings : Settings} {w : Workspace} {u : Upload}

theorem uploadPath_of_suffix (suffix : lower (Path.suffix u.fileName) = ".ifc") (size : Nat) :
    Workspace.uploadPath settings u.given size =
      (checkSize settings size u.fileName).map fun _ => u.path settings := by
  rw [fileName] at suffix
  simp [Workspace.uploadPath, Workspace.uploadSuffixes, suffix, path, fileName]
  rfl

theorem uploadPath_of_ne (other : lower (Path.suffix u.fileName) ≠ ".ifc") (size : Nat) :
    Workspace.uploadPath settings u.given size =
      .error (.importing ("Not an IFC file: " ++ u.given) []) := by
  rw [fileName] at other
  simp [Workspace.uploadPath, Workspace.uploadSuffixes, other]
  rfl

theorem Taken.uploadPath_eq (taken : u.Taken settings) :
    Workspace.uploadPath settings u.given u.file.size = .ok (u.path settings) := by
  rw [uploadPath_of_suffix taken.suffix, checkSize_of_le taken.fits]
  rfl

theorem Imported.run_eq {made written : Disk} {m : Model}
    (h : u.Imported settings w.disk made written m) :
    u.run settings w = (.ok m.importResult, ⟨w.registry.register m, written⟩) := by
  unfold run Workspace.importUpload
  simp only [h.taken.uploadPath_eq, Workspace.store, h.folder, h.stored]
  exact Reads.importFile_eq (w := ⟨w.registry, written⟩) h.reads

theorem Refused.run {fault : Fault} (h : u.Refused settings w.disk fault) :
    (u.run settings w).1 = .error fault ∧ (u.run settings w).2.registry = w.registry := by
  unfold Upload.run Workspace.importUpload
  cases h with
  | wrongSuffix other => simp only [uploadPath_of_ne other, and_self]
  | tooLarge suffix large =>
      simp only [uploadPath_of_suffix suffix, checkSize_of_lt large, Except.map, and_self]
  | noFolder taken failed =>
      simp only [taken.uploadPath_eq, Workspace.store, failed, and_self]
  | unwritten taken folder failed =>
      simp only [taken.uploadPath_eq, Workspace.store, folder, failed, and_self]
  | unread taken folder stored unreadable =>
      simp only [taken.uploadPath_eq, Workspace.store, folder, stored]
      have failed := Unreadable.importFile_eq (w := ⟨w.registry, _⟩) unreadable u.name
      rw [failed]
      exact ⟨rfl, rfl⟩

theorem imported_or_refused (settings : Settings) (disk : Disk) (u : Upload) :
    (∃ made written m, u.Imported settings disk made written m) ∨
      ∃ fault, u.Refused settings disk fault := by
  by_cases suffix : lower (Path.suffix u.fileName) = ".ifc"
  · obtain large | fits := Int.lt_or_le settings.maxFileSize u.file.size
    · exact .inr ⟨_, .tooLarge suffix large⟩
    have taken : u.Taken settings := ⟨suffix, fits⟩
    cases folder : disk.makeFolder (Path.normal settings.uploadFolder) with
    | error fault => exact .inr ⟨_, .noFolder taken folder⟩
    | ok made =>
        cases stored : made.write (u.path settings) u.file with
        | error fault => exact .inr ⟨_, .unwritten taken folder stored⟩
        | ok written =>
            obtain ⟨m, reads⟩ | ⟨fault, unreadable⟩ :=
              reads_or_unreadable settings written (u.path settings) u.name
            · exact .inl ⟨made, written, m, taken, folder, stored, reads⟩
            · exact .inr ⟨_, .unread taken folder stored unreadable⟩
  · exact .inr ⟨_, .wrongSuffix suffix⟩

end Upload

/-! ## Calls -/

/-- A call that imports a file where it lies, or one that is uploaded. -/
inductive ImportCall
  | stored (path : String) (name : Option String)
  | upload (u : Upload)

namespace ImportCall

/-- The path from which the model is read. -/
def source (settings : Settings) : ImportCall → String
  | stored path _ => Path.normal path
  | upload u => u.path settings

/-- The name that is given for the model. -/
def given? : ImportCall → Option String
  | stored _ name => name
  | upload u => u.name

/-- The name that the model goes by: the one that is given, unless it is empty, or that of the
file. -/
def modelId (settings : Settings) (call : ImportCall) : String :=
  (call.given?.filter (· != "")).getD (Path.fileName (call.source settings))

def run (settings : Settings) (w : Workspace) : ImportCall → Except Fault ImportResult × Workspace
  | stored path name => w.importFile settings (Path.normal path) name
  | upload u => u.run settings w

/-- What is wrong with a call. -/
def Fails (settings : Settings) (disk : Disk) : ImportCall → Fault → Prop
  | stored path _ => Unreadable settings disk (Path.normal path)
  | upload u => u.Refused settings disk

/-- The model that a call reads. -/
def Gives (settings : Settings) (disk : Disk) : ImportCall → Model → Prop
  | stored path name => Reads settings disk (Path.normal path) name
  | upload u => fun m => ∃ made written, u.Imported settings disk made written m

variable {settings : Settings} {disk : Disk} {call : ImportCall}

theorem gives_or_fails (settings : Settings) (disk : Disk) (call : ImportCall) :
    (∃ m, call.Gives settings disk m) ∨ ∃ fault, call.Fails settings disk fault := by
  cases call with
  | stored path name => exact reads_or_unreadable settings disk (Path.normal path) name
  | upload u =>
      obtain ⟨made, written, m, h⟩ | refused := u.imported_or_refused settings disk
      · exact .inl ⟨m, made, written, h⟩
      · exact .inr refused

theorem Fails.run {fault : Fault} (h : call.Fails settings disk fault) (r : Registry) :
    (call.run settings ⟨r, disk⟩).1 = .error fault ∧
      (call.run settings ⟨r, disk⟩).2.registry = r := by
  cases call with
  | stored path name =>
      have failed := Unreadable.importFile_eq (w := ⟨r, disk⟩) h name
      exact ⟨congrArg Prod.fst failed, congrArg (·.2.registry) failed⟩
  | upload u =>
      rw [ImportCall.run]
      exact Upload.Refused.run (w := ⟨r, disk⟩) h

theorem Gives.run {m : Model} (h : call.Gives settings disk m) (r : Registry) :
    (call.run settings ⟨r, disk⟩).1 = .ok m.importResult ∧
      (call.run settings ⟨r, disk⟩).2.registry = r.register m := by
  cases call with
  | stored path name =>
      have done := Reads.importFile_eq (w := ⟨r, disk⟩) h
      exact ⟨congrArg Prod.fst done, congrArg (·.2.registry) done⟩
  | upload u =>
      obtain ⟨made, written, h⟩ := h
      rw [ImportCall.run, Upload.Imported.run_eq (w := ⟨r, disk⟩) h]
      exact ⟨rfl, rfl⟩

theorem Gives.id_and_source {m : Model} (h : call.Gives settings disk m) :
    m.id = call.modelId settings ∧ m.sourcePath = some (call.source settings) := by
  cases call with
  | stored path name => exact h.id_and_source
  | upload u =>
      obtain ⟨made, written, h⟩ := h
      exact h.reads.id_and_source

end ImportCall

/-! ## Calls one after the other -/

/-- The registry after some calls, each made with the disk that it finds. -/
def imports (settings : Settings) (r : Registry) (calls : List (Disk × ImportCall)) : Registry :=
  calls.foldl (fun r (disk, call) => (call.run settings ⟨r, disk⟩).2.registry) r

/-- The models that some calls read, in order; those that fail read none. -/
inductive Registers (settings : Settings) : List (Disk × ImportCall) → List Model → Prop
  | nil : Registers settings [] []
  | gives {disk : Disk} {call : ImportCall} {m : Model} {calls : List (Disk × ImportCall)}
      {models : List Model} (h : call.Gives settings disk m)
      (rest : Registers settings calls models) :
      Registers settings ((disk, call) :: calls) (m :: models)
  | fails {disk : Disk} {call : ImportCall} {fault : Fault} {calls : List (Disk × ImportCall)}
      {models : List Model} (h : call.Fails settings disk fault)
      (rest : Registers settings calls models) :
      Registers settings ((disk, call) :: calls) models

theorem exists_registers (settings : Settings) (calls : List (Disk × ImportCall)) :
    ∃ models, Registers settings calls models := by
  induction calls with
  | nil => exact ⟨[], .nil⟩
  | cons first rest ih =>
      obtain ⟨disk, call⟩ := first
      obtain ⟨models, rest⟩ := ih
      obtain ⟨m, h⟩ | ⟨fault, h⟩ := call.gives_or_fails settings disk
      · exact ⟨m :: models, rest.gives h⟩
      · exact ⟨models, rest.fails h⟩

/-- Calls register the models that they read, and nothing else happens to the registry. -/
theorem Registers.imports_eq {settings : Settings} {calls : List (Disk × ImportCall)}
    {models : List Model} (h : Registers settings calls models) (r : Registry) :
    imports settings r calls = r.after (models.map .register) := by
  induction h generalizing r with
  | nil => rfl
  | gives h rest ih =>
      simp only [imports, List.foldl_cons, (h.run r).2]
      exact ih (r.register _)
  | fails h rest ih =>
      simp only [imports, List.foldl_cons, (h.run r).2]
      exact ih r

/-- A registration adds or replaces one model and makes it the default. -/
structure Registry.Registered (before after : Registry) (m : Model) : Prop where
  held : after.models.find? m.id = some m
  others : ∀ name, name ≠ m.id → after.models.find? name = before.models.find? name
  names : after.models.keys =
    if m.id ∈ before.models.keys then before.models.keys else before.models.keys ++ [m.id]
  latest : after.latest = some m.id
  default : ∀ key, key = none ∨ key = some "" → after.get key = .ok m

theorem Registry.registered_register (r : Registry) (m : Model) :
    r.Registered (r.register m) m where
  held := by simp [register]
  others name other := by simp [register, other]
  names := OrderedMap.keys_insert ..
  latest := rfl
  default key unnamed := by
    rw [get_default _ unnamed]
    simp [register]

/-- What is reported is what the model is. -/
structure ImportResult.Tells (result : ImportResult) (m : Model) : Prop where
  modelId : result.modelId = m.id
  modelName : result.modelName = m.name
  schema : result.schema = m.schema
  elementCount : result.elementCount = m.elements.length
  counts : result.counts = m.counts
  path : result.path = m.sourcePath

/-- Calls leave in the registry what those of them registered that succeeded. After any calls, a call
fails just when one of its stages does, and then the registry stays as it was. A call that succeeds
adds or replaces the one model of its name, which is the default from then on, and reports this
model. -/
theorem imports_atomic (settings : Settings) (r : Registry) (earlier : List (Disk × ImportCall))
    (disk : Disk) (call : ImportCall) :
    let before := imports settings r earlier
    let after := imports settings r (earlier ++ [(disk, call)])
    let answer := (call.run settings ⟨before, disk⟩).1
    (∃ models, Registers settings earlier models ∧ before = r.after (models.map .register)) ∧
    (∀ fault, answer = .error fault ↔ call.Fails settings disk fault) ∧
    (∀ fault, answer = .error fault → after = before) ∧
    ∀ result, answer = .ok result → ∃ m, call.Gives settings disk m ∧
      m.id = call.modelId settings ∧ m.sourcePath = some (call.source settings) ∧
        before.Registered after m ∧ result.Tells m := by
  intro before after answer
  have history : ∃ models, Registers settings earlier models ∧
      before = r.after (models.map .register) := by
    obtain ⟨models, registers⟩ := exists_registers settings earlier
    exact ⟨models, registers, registers.imports_eq r⟩
  refine ⟨history, ?_⟩
  have step : after = (call.run settings ⟨before, disk⟩).2.registry := by
    simp only [after, imports, List.foldl_append, List.foldl_cons, List.foldl_nil]
    rfl
  -- What the call reads says what happens; the registry before it has no part in that.
  obtain ⟨m, given⟩ | ⟨fault, failed⟩ := call.gives_or_fails settings disk
  · obtain ⟨told, registered⟩ := given.run before
    have told : answer = .ok m.importResult := told
    refine ⟨fun fault => ⟨fun wrong => ?_, fun wrong => ?_⟩, fun fault wrong => ?_, ?_⟩
    · rw [told] at wrong
      cases wrong
    · have refused : answer = .error fault := (wrong.run before).1
      rw [told] at refused
      cases refused
    · rw [told] at wrong
      cases wrong
    · intro result right
      rw [told, Except.ok.injEq] at right
      subst right
      obtain ⟨id, source⟩ := given.id_and_source
      rw [step, registered]
      exact ⟨m, given, id, source, before.registered_register m, ⟨rfl, rfl, rfl, rfl, rfl, rfl⟩⟩
  · obtain ⟨told, kept⟩ := failed.run before
    have told : answer = .error fault := told
    refine ⟨fun other => ⟨fun wrong => ?_, fun wrong => (wrong.run before).1⟩,
      fun _ _ => step.trans kept, fun result right => ?_⟩
    · rw [told, Except.error.injEq] at wrong
      exact wrong ▸ failed
    · rw [told] at right
      cases right

/-- What is no building model leaves the house the default. -/
example :
    let plan : StoredFile := ⟨0, .ok ⟨"IFC4", [], []⟩⟩
    (imports .usual .empty [(.empty, .upload ⟨"plan.ifc", plan, some "house"⟩),
      (.empty, .upload ⟨"notes.txt", plan, some "shed"⟩)]).latest = some "house" := rfl

end BuildingWorkflow
