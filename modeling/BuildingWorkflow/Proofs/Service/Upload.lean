import BuildingWorkflow.Ifc.Writer
import BuildingWorkflow.Proofs.Service.Disk
import BuildingWorkflow.Proofs.Service.Import
import Mathlib.Data.List.Nodup

/-!
Which file the writer opens again for a model that was uploaded.

An upload is stored in the one folder for uploads, under its own file name whatever the model is
called. So two uploads share a source just when they share a file name, and then the later one takes
the place of the earlier one: for each model the writer opens what the last upload of its file name
stored. Uploads with different file names leave each other alone, since a file that is written into
a folder leaves the others there as they are found.
-/
namespace BuildingWorkflow

/-- The name that the model of an upload goes by. -/
def Upload.id (u : Upload) : String := (u.name.filter (· != "")).getD u.fileName

/-- Uploads that are imported one after the other, all of them with success. -/
inductive AllImported (settings : Settings) (w : Workspace) : List Upload → Workspace → Prop
  | nil : AllImported settings w [] w
  | upload {uploads : List Upload} {u : Upload} {w' w'' : Workspace} {result : ImportResult}
      (earlier : AllImported settings w uploads w')
      (imported : u.run settings w' = (.ok result, w'')) :
      AllImported settings w (uploads ++ [u]) w''

/-- The last upload of a file name. -/
def newestUpload? (uploads : List Upload) (fileName : String) : Option Upload :=
  uploads.reverse.find? (·.fileName == fileName)

/-- The model of an upload stands under its name, and to edit a copy of its source the writer opens
a certain file. -/
inductive Reopens (settings : Settings) (w : Workspace) (u : Upload) (file : StoredFile) : Prop
  | intro {m : Model} {content : IfcFile} (held : w.registry.models.find? u.id = some m)
      (source : m.sourcePath = some (u.path settings)) (opens : file.content = .ok content)
      (edits : ∀ (files : FileAccess) (request : ExportRequest),
        files.openFile = w.disk.contentAt → request.model = some m →
          files.editModel request = content.applyElements request.elements)

/-! ## One upload -/

namespace Upload

variable {settings : Settings} {w w' : Workspace} {u : Upload} {result : ImportResult}

theorem Taken.plain (taken : u.Taken settings) : Path.Plain u.fileName := by
  refine Path.plain_fileName fun blank => ?_
  have suffix := taken.suffix
  rw [fileName, blank] at suffix
  exact absurd suffix (by decide +kernel)

theorem Taken.ne_dots (taken : u.Taken settings) : u.fileName ≠ ".." := by
  intro dots
  have suffix := taken.suffix
  rw [dots] at suffix
  exact absurd suffix (by decide +kernel)

theorem imported_of_run (imported : u.run settings w = (.ok result, w')) :
    ∃ made m, u.Imported settings w.disk made w'.disk m ∧
      w'.registry = w.registry.register m := by
  obtain ⟨made, written, m, h⟩ | ⟨fault, h⟩ := u.imported_or_refused settings w.disk
  · rw [h.run_eq, Prod.mk.injEq] at imported
    obtain ⟨-, rfl⟩ := imported
    exact ⟨made, m, h, rfl⟩
  · have failed := h.run.1
    rw [imported] at failed
    cases failed

variable {made written : Disk} {m : Model}

/-- The file that is found after an upload is the one that was uploaded. -/
theorem Imported.find (h : u.Imported settings w.disk made written m) :
    written.find (u.path settings) = .file u.file ∧ ∃ content, u.file.content = .ok content := by
  obtain ⟨taken, folder, stored, found, fits, opens, known, header⟩ := h
  obtain rfl := Disk.find_write_self stored found
  exact ⟨found, _, opens⟩

theorem Imported.id_and_source (h : u.Imported settings w.disk made written m) :
    m.id = u.id ∧ m.sourcePath = some (u.path settings) := by
  obtain ⟨named, source⟩ := h.reads.id_and_source
  rw [path, Path.fileName_inFolder _ h.taken.plain] at named
  exact ⟨named, source⟩

/-- An upload leaves a file of another name as it is found. -/
theorem Imported.find_of_ne (h : u.Imported settings w.disk made written m) {name : String}
    {file : StoredFile} (plain : Path.Plain name) (down : name ≠ "..") (ne : name ≠ u.fileName)
    (found : w.disk.find (Path.inFolder settings.uploadFolder name) = .file file) :
    written.find (Path.inFolder settings.uploadFolder name) = .file file := by
  obtain ⟨taken, folder, stored, reads⟩ := h
  obtain rfl := Disk.makeFolder_of_find plain found folder
  exact Disk.find_write_of_ne plain down taken.plain taken.ne_dots ne stored found

end Upload

/-! ## Uploads one after the other -/

section Newest

variable (uploads : List Upload) (u : Upload) (fileName : String)

theorem newestUpload?_concat : newestUpload? (uploads ++ [u]) fileName =
    if u.fileName = fileName then some u else newestUpload? uploads fileName := by
  by_cases same : u.fileName = fileName
  · simp [newestUpload?, same]
  · simp [newestUpload?, same]

variable {uploads u} in
theorem exists_newestUpload? (member : u ∈ uploads) :
    ∃ v, newestUpload? uploads u.fileName = some v := by
  rw [← Option.isSome_iff_exists, newestUpload?, List.find?_isSome]
  exact ⟨u, List.mem_reverse.mpr member, beq_self_eq_true _⟩

variable {uploads u fileName} in
theorem fileName_of_newestUpload? (newest : newestUpload? uploads fileName = some u) :
    u.fileName = fileName := by
  simpa using List.find?_some newest

variable {uploads u fileName} in
theorem mem_of_newestUpload? (newest : newestUpload? uploads fileName = some u) : u ∈ uploads :=
  List.mem_reverse.mp (List.mem_of_find?_eq_some newest)

/-- Where no two file names are the same, an upload is the last one of its file name. -/
theorem newestUpload?_of_nodup (nodup : (uploads.map Upload.fileName).Nodup) (member : u ∈ uploads) :
    newestUpload? uploads u.fileName = some u := by
  obtain ⟨v, newest⟩ := exists_newestUpload? member
  rw [newest, Option.some.injEq]
  exact List.inj_on_of_nodup_map nodup (mem_of_newestUpload? newest) member
    (fileName_of_newestUpload? newest)

end Newest

section Uploads

variable {settings : Settings} {w w' : Workspace} {uploads : List Upload}

theorem AllImported.plain (run : AllImported settings w uploads w') :
    ∀ u ∈ uploads, Path.Plain u.fileName ∧ u.fileName ≠ ".." := by
  induction run with
  | nil => simp
  | upload earlier imported ih =>
      intro u member
      obtain member | member := List.mem_append.mp member
      · exact ih u member
      · obtain rfl := List.mem_singleton.mp member
        obtain ⟨made, m, h, -⟩ := Upload.imported_of_run imported
        exact ⟨h.taken.plain, h.taken.ne_dots⟩

/-- What is found under a file name is what the last upload of that name stored. -/
theorem AllImported.find_newest (run : AllImported settings w uploads w') {fileName : String}
    {v : Upload} (newest : newestUpload? uploads fileName = some v) :
    w'.disk.find (Path.inFolder settings.uploadFolder fileName) = .file v.file ∧
      ∃ content, v.file.content = .ok content := by
  induction run with
  | nil => cases newest
  | upload earlier imported ih =>
      obtain ⟨made, m, h, -⟩ := Upload.imported_of_run imported
      rw [newestUpload?_concat] at newest
      split at newest
      · rename_i same
        obtain rfl := Option.some.inj newest
        exact same ▸ h.find
      · -- Another file name: the folder is there, and the file in it is not touched.
        rename_i other
        obtain ⟨found, opens⟩ := ih newest
        obtain ⟨plain, down⟩ := earlier.plain v (mem_of_newestUpload? newest)
        rw [fileName_of_newestUpload? newest] at plain down
        exact ⟨h.find_of_ne plain down (fun e => other e.symm) found, opens⟩

/-- Each upload has its model under its name when no later one takes the name. -/
theorem AllImported.exists_model (run : AllImported settings w uploads w')
    (distinct : (uploads.map Upload.id).Nodup) {u : Upload} (member : u ∈ uploads) :
    ∃ m, w'.registry.models.find? u.id = some m ∧ m.sourcePath = some (u.path settings) := by
  induction run with
  | nil => cases member
  | @upload uploads last _ _ _ earlier imported ih =>
      obtain ⟨made, m, h, registered⟩ := Upload.imported_of_run imported
      obtain ⟨id, source⟩ := h.id_and_source
      rw [List.map_append, List.map_singleton, List.nodup_append] at distinct
      rw [registered, Registry.register, OrderedMap.find?_insert, id]
      obtain member | member := List.mem_append.mp member
      · have other : u.id ≠ last.id :=
          distinct.2.2 u.id (List.mem_map_of_mem member) last.id (List.mem_singleton_self _)
        rw [if_neg other]
        exact ih distinct.1 member
      · obtain rfl := List.mem_singleton.mp member
        exact ⟨m, if_pos rfl, source⟩

theorem AllImported.reopens (run : AllImported settings w uploads w')
    (distinct : (uploads.map Upload.id).Nodup) {u v : Upload} (member : u ∈ uploads)
    (newest : newestUpload? uploads u.fileName = some v) : Reopens settings w' u v.file := by
  obtain ⟨m, held, source⟩ := run.exists_model distinct member
  obtain ⟨found, content, opens⟩ := run.find_newest newest
  refine .intro held source opens fun files request same asked => ?_
  have filled : u.path settings ≠ "" := Path.inFolder_ne_empty _ (run.plain u member).1
  have shown : files.openFile (u.path settings) = .ok content := by
    rw [same, Disk.contentAt, Upload.path, found]
    exact opens
  have path : (request.model.bind Model.sourcePath).filter (· != "") =
      some (u.path settings) := by
    simp [asked, source, filled]
  simp only [FileAccess.editModel, path, shown]

theorem AllImported.nodup_paths_iff (run : AllImported settings w uploads w') :
    (uploads.map (Upload.path settings)).Nodup ↔ (uploads.map Upload.fileName).Nodup := by
  have paths : uploads.map (Upload.path settings) =
      (uploads.map Upload.fileName).map (Path.inFolder settings.uploadFolder) := by
    rw [List.map_map]
    rfl
  rw [paths]
  refine ⟨List.Nodup.of_map _, fun nodup => nodup.map_on fun name member other member' same => ?_⟩
  obtain ⟨u, inside, rfl⟩ := List.mem_map.mp member
  obtain ⟨v, inside', rfl⟩ := List.mem_map.mp member'
  exact (Path.inFolder_inj _ (run.plain u inside).1 (run.plain v inside').1).mp same

end Uploads

/-- Uploads under pairwise distinct names of models have pairwise distinct sources just when their
file names are pairwise distinct. For the model of each of them the writer opens what the last upload
of its file name stored; so it opens the own file of each where the file names are distinct. -/
theorem reopens_newest {settings : Settings} {w w' : Workspace} {uploads : List Upload}
    (run : AllImported settings w uploads w') (distinct : (uploads.map Upload.id).Nodup) :
    (∀ u ∈ uploads, ∃ v, newestUpload? uploads u.fileName = some v ∧
      Reopens settings w' u v.file) ∧
    ((uploads.map (Upload.path settings)).Nodup ↔ (uploads.map Upload.fileName).Nodup) ∧
    ((uploads.map Upload.fileName).Nodup → ∀ u ∈ uploads, Reopens settings w' u u.file) := by
  refine ⟨fun u member => ?_, run.nodup_paths_iff, fun nodup u member => ?_⟩
  · obtain ⟨v, newest⟩ := exists_newestUpload? member
    exact ⟨v, newest, run.reopens distinct member newest⟩
  · exact run.reopens distinct member (newestUpload?_of_nodup uploads u nodup member)

/-! ## Plans of two buildings -/

/-- The workspace after an upload. -/
def Upload.workspace (settings : Settings) (w : Workspace) (u : Upload) : Workspace :=
  (u.run settings w).2

theorem AllImported.next {settings : Settings} {w w' : Workspace} {uploads : List Upload}
    {u : Upload} {result : ImportResult} (earlier : AllImported settings w uploads w')
    (imported : (u.run settings w').1 = .ok result) :
    AllImported settings w (uploads ++ [u]) (u.workspace settings w') := by
  have whole : u.run settings w' = (.ok result, u.workspace settings w') := by
    rw [Upload.workspace, ← imported]
  exact earlier.upload whole

def housePlan : Upload := ⟨"plan.ifc", ⟨0, .ok ⟨"IFC4", [], []⟩⟩, some "house"⟩

def shedPlan : Upload := ⟨"plan.ifc", ⟨0, .ok ⟨"IFC2X3", [], []⟩⟩, some "shed"⟩

def barnPlan : Upload := ⟨"barn.ifc", ⟨0, .ok ⟨"IFC2X3", [], []⟩⟩, some "barn"⟩

theorem reopens_newest_barn :
    let w := barnPlan.workspace .usual (housePlan.workspace .usual .empty)
    AllImported .usual .empty [housePlan, barnPlan] w ∧
      ([housePlan, barnPlan].map Upload.id).Nodup ∧
      Reopens .usual w housePlan housePlan.file ∧ Reopens .usual w barnPlan barnPlan.file := by
  intro w
  have run : AllImported .usual .empty [housePlan, barnPlan] w :=
    (AllImported.nil.next (u := housePlan) rfl).next (u := barnPlan) rfl
  have distinct : ([housePlan, barnPlan].map Upload.id).Nodup := by decide
  have own := (reopens_newest run distinct).2.2 (by decide +kernel)
  exact ⟨run, distinct, own _ (by simp), own _ (by simp)⟩

/-- The plan of the shed takes the place of that of the house, which has the same file name. -/
theorem reopens_newest_replaced :
    let w := shedPlan.workspace .usual (housePlan.workspace .usual .empty)
    AllImported .usual .empty [housePlan, shedPlan] w ∧
      ([housePlan, shedPlan].map Upload.id).Nodup ∧
      (w.registry.get (some "house")).map Model.sourcePath =
        (w.registry.get (some "shed")).map Model.sourcePath ∧
      (w.registry.get (some "house")).map Model.sourcePath =
        .ok (some "/tmp/ifc_flow_uploads/plan.ifc") ∧
      w.disk.contentAt "/tmp/ifc_flow_uploads/plan.ifc" = shedPlan.file.content ∧
      housePlan.file.content ≠ shedPlan.file.content := by
  intro w
  have run : AllImported .usual .empty [housePlan, shedPlan] w :=
    (AllImported.nil.next (u := housePlan) rfl).next (u := shedPlan) rfl
  exact ⟨run, by decide, rfl, rfl, rfl, by simp [housePlan, shedPlan]⟩

end BuildingWorkflow
