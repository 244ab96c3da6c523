import BuildingWorkflow.Proofs.Text.Path
import BuildingWorkflow.Service.Disk

/-!
Files in one folder.

A file that is found lies at the place of its path, and all places on the way to it are folders. So
writing a file leaves the other files of its folder where they are found: their places are neither
that of the file nor around it.
-/
namespace BuildingWorkflow

namespace Location

variable (l : Location)

/-- The paths of all places in a folder begin alike. -/
theorem exists_path_child : ∃ front, ∀ name, (l.child name).path = front ++ name := by
  obtain ⟨absolute, names⟩ := l
  by_cases filled : names = []
  · exact ⟨if absolute then "/" else "", fun name => by simp [path, child, filled]⟩
  · refine ⟨(if absolute then "/" else "") ++ String.intercalate "/" names ++ "/", fun name => ?_⟩
    rw [path, child, String.intercalate_append_of_ne_nil filled (List.cons_ne_nil name [])]
    cases absolute <;> simp [String.append_assoc]

theorem path_child_inj {name other : String} :
    (l.child name).path = (l.child other).path ↔ name = other := by
  obtain ⟨front, paths⟩ := l.exists_path_child
  rw [paths, paths, String.append_right_inj]

/-- No place in a folder lies behind another one. -/
theorem startsWith_path_child (name : String) {other : String} (noSlash : '/' ∉ other.toList) :
    startsWith (l.child other).path ((l.child name).path ++ "/") = false := by
  obtain ⟨front, paths⟩ := l.exists_path_child
  rw [← Bool.not_eq_true, paths, paths, startsWith, List.isPrefixOf_iff_prefix]
  simp only [String.toList_append, List.append_assoc, List.prefix_append_right_inj]
  rintro ⟨rest, split⟩
  apply noSlash
  rw [← split]
  simp

theorem start_eq {path path' : String} (same : startsWith path "/" = startsWith path' "/") :
    start path = start path' := by
  rw [start, start, same]

theorem ofPath_inFolder (folder : String) {name : String} (plain : Path.Plain name)
    (down : name ≠ "..") : ofPath (Path.inFolder folder name) = (ofPath folder).child name := by
  rw [ofPath, ofPath, Path.names_inFolder folder plain,
    start_eq (Path.startsWith_inFolder folder plain), List.foldl_append, List.foldl_cons,
    List.foldl_nil, step, if_neg down]

end Location

namespace Disk

open Location

variable {d : Disk}

/-! ## Files that are found -/

theorem find?_of_follow {l : Location} {names : List String} {f : StoredFile}
    (found : d.follow l names = .file f) : d.files.find? (names.foldl step l).path = some f := by
  induction names generalizing l with
  | nil =>
      rw [follow] at found
      split at found
      · cases found
      · cases held : d.files.find? l.path with
        | none => simp [held] at found
        | some file =>
            simp only [held, Option.elim_some, Entry.file.injEq] at found
            exact found ▸ held
  | cons name rest ih =>
      rw [follow] at found
      split at found
      · cases found
      · split at found
        · cases found
        · exact ih found

/-- What is around a file that is found is a folder. -/
theorem follow_of_follow_append {l : Location} {names : List String} {name : String}
    {f : StoredFile} (found : d.follow l (names ++ [name]) = .file f) :
    d.follow l names = .folder := by
  induction names generalizing l with
  | nil =>
      rw [List.nil_append, follow] at found
      split at found
      · cases found
      · rename_i isFolder
        rw [follow, if_pos (by simpa using isFolder)]
  | cons first rest ih =>
      rw [List.cons_append, follow] at found
      rw [follow]
      split at found
      · cases found
      · split at found
        · cases found
        · rename_i isFolder short
          rw [if_neg isFolder, if_neg short]
          exact ih found

theorem follow_of_find {path : String} {f : StoredFile} (found : d.find path = .file f) :
    holdsNul path = false ∧ ¬ maxPathBytes < path.utf8ByteSize ∧
      d.follow (start path) (Path.names path) = .file f := by
  rw [find] at found
  split at found
  · cases found
  · rename_i clear
    split at found
    · cases found
    · rename_i short
      exact ⟨Bool.eq_false_iff.mpr clear, short, found⟩

/-! ## Folders -/

/-- A folder that holds a file is there, and need not be made. -/
theorem makeFolder_of_find {folder name : String} {f : StoredFile} {d' : Disk}
    (plain : Path.Plain name) (found : d.find (Path.inFolder folder name) = .file f)
    (made : d.makeFolder (Path.normal folder) = .ok d') : d' = d := by
  obtain ⟨-, -, found⟩ := follow_of_find found
  rw [Path.names_inFolder folder plain] at found
  have isFolder := follow_of_follow_append found
  have begun : start (Path.inFolder folder name) = start (Path.normal folder) :=
    start_eq ((Path.startsWith_inFolder folder plain).trans (Path.startsWith_normal folder).symm)
  rw [begun] at isFolder
  rw [makeFolder] at made
  split at made
  · cases made
  · rename_i clear
    rw [find, if_neg clear, Path.names_normal] at made
    -- The way to the file leads through the folder, so all but the first case is ruled out.
    split at made
    · cases made
      rfl
    · cases made
    · cases made
    · rename_i nothing
      split at nothing
      · cases nothing
      · rw [isFolder] at nothing
        cases nothing

/-! ## Writing -/

theorem write_eq_ok {path : String} {file : StoredFile} {d' : Disk}
    (written : d.write path file = .ok d') :
    d' = { d with files := d.files.insert (ofPath path).path file } := by
  rw [write] at written
  split at written
  · cases written
  · split at written <;> cases written <;> rfl

/-- What is found behind a path that was written is what was written. -/
theorem find_write_self {path : String} {file f : StoredFile} {d' : Disk}
    (written : d.write path file = .ok d') (found : d'.find path = .file f) : f = file := by
  have held := find?_of_follow (follow_of_find found).2.2
  rw [write_eq_ok written, ← ofPath] at held
  simpa using held.symm

variable {path : String} {file : StoredFile}

theorem isFolder_insert_of_isFolder {l : Location} (held : d.isFolder l = true) :
    isFolder { d with files := d.files.insert path file } l = true := by
  simp only [isFolder, Bool.or_eq_true, List.any_append] at held ⊢
  refine held.imp_right (Or.imp_right fun inside => ?_)
  obtain ⟨key, member, beneath⟩ := List.any_eq_true.mp inside
  rw [OrderedMap.keys_insert]
  split
  · exact List.any_eq_true.mpr ⟨key, member, beneath⟩
  · exact List.any_eq_true.mpr ⟨key, List.mem_append_left _ member, beneath⟩

theorem isFolder_insert_of_outside {l : Location}
    (outside : startsWith path (l.path ++ "/") = false) :
    isFolder { d with files := d.files.insert path file } l = d.isFolder l := by
  simp only [isFolder, OrderedMap.keys_insert]
  split
  · rfl
  · simp [outside]

theorem follow_insert {l : Location} {names : List String} {f : StoredFile}
    (apart : (names.foldl step l).path ≠ path)
    (outside : startsWith path ((names.foldl step l).path ++ "/") = false)
    (found : d.follow l names = .file f) :
    follow { d with files := d.files.insert path file } l names = .file f := by
  induction names generalizing l with
  | nil =>
      rw [follow] at found ⊢
      rw [List.foldl_nil] at apart outside
      simpa [isFolder_insert_of_outside outside, apart] using found
  | cons name rest ih =>
      rw [follow] at found ⊢
      split at found
      · cases found
      · split at found
        · cases found
        · rename_i isFolder short
          have held : d.isFolder l = true := by simpa using isFolder
          rw [isFolder_insert_of_isFolder held, if_neg (by simp), if_neg short]
          exact ih apart outside found

/-- A file that is written into a folder leaves the others there as they are found. -/
theorem find_write_of_ne {folder name other : String} {file f : StoredFile} {d' : Disk}
    (plain : Path.Plain name) (down : name ≠ "..") (plain' : Path.Plain other)
    (down' : other ≠ "..") (ne : name ≠ other)
    (written : d.write (Path.inFolder folder other) file = .ok d')
    (found : d.find (Path.inFolder folder name) = .file f) :
    d'.find (Path.inFolder folder name) = .file f := by
  obtain ⟨clear, short, found⟩ := follow_of_find found
  rw [write_eq_ok written, find, if_neg (by simp [clear]), if_neg short]
  have place := ofPath_inFolder folder plain down
  have place' := ofPath_inFolder folder plain' down'
  have apart : (ofPath (Path.inFolder folder name)).path ≠
      (ofPath (Path.inFolder folder other)).path := by
    rw [place, place', ne_eq, path_child_inj]
    exact ne
  have outside : startsWith (ofPath (Path.inFolder folder other)).path
      ((ofPath (Path.inFolder folder name)).path ++ "/") = false := by
    rw [place, place']
    exact startsWith_path_child _ name plain'.noSlash
  exact follow_insert apart outside found

end Disk

end BuildingWorkflow
