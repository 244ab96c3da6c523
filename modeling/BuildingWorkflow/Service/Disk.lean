import BuildingWorkflow.Ifc.Loading

/-!
The disk: folders, and files with what they hold, found by their paths.

A path is followed name by name, from the root or from the folder that work is done in; two dots
lead to the folder around. Only through folders does it lead any further.
-/
namespace BuildingWorkflow

structure StoredFile where
  size : Nat
  content : FileContent

/-- A place on the disk, seen from the root or from the folder that work is done in. -/
structure Location where
  absolute : Bool
  names : List String

namespace Location

/-- Where every path starts. -/
def start (path : String) : Location := ⟨startsWith path "/", []⟩

def child (l : Location) (name : String) : Location := { l with names := l.names ++ [name] }

/-- The folder around a place; the root is its own. Around the folder that work is done in lies one
that is told by dots alone. -/
def parent (l : Location) : Location :=
  match l.names.getLast? with
  | some ".." => l.child ".."
  | some _ => { l with names := l.names.dropLast }
  | none => if l.absolute then l else l.child ".."

/-- The place that a name leads to. -/
def step (l : Location) (name : String) : Location :=
  if name = ".." then l.parent else l.child name

/-- The place of a path. -/
def ofPath (path : String) : Location := (Path.names path).foldl step (start path)

/-- The places on the way of a path, with that at its end. -/
def way (path : String) : List Location := (Path.names path).scanl step (start path)

/-- The one path of the place that has no detours. -/
def path (l : Location) : String :=
  (if l.absolute then "/" else "") ++ String.intercalate "/" l.names

end Location

structure Disk where
  /-- Files by the paths of their places. -/
  files : OrderedMap StoredFile
  /-- The paths of folders that were made, with files in them or not. -/
  folders : List String

/-- What is found at the end of a path. -/
inductive Disk.Entry
  | folder
  | file (f : StoredFile)
  | nothing
  /-- The path has a name that no file can have. -/
  | nameTooLong

namespace Disk

def empty : Disk := ⟨.empty, []⟩

/-- Whether a place is a folder: the folders above all paths are, and those around files and
folders. -/
def isFolder (d : Disk) (l : Location) : Bool :=
  l.names.all (· == "..") || d.folders.contains l.path ||
    (d.folders ++ d.files.keys).any (startsWith · (l.path ++ "/"))

/-- How many bytes a name and a path may have. -/
def maxNameBytes : Nat := 255

def maxPathBytes : Nat := 4095

/-- What some names lead to from a place. -/
def follow (d : Disk) (l : Location) : List String → Entry
  | [] => if d.isFolder l then .folder else (d.files.find? l.path).elim .nothing .file
  | name :: rest =>
      if !d.isFolder l then .nothing
      else if maxNameBytes < name.utf8ByteSize then .nameTooLong
      else d.follow (l.step name) rest

def holdsNul (path : String) : Bool := path.toList.contains '\x00'

/-- What a path leads to; a path with a NUL leads nowhere. -/
def find (d : Disk) (path : String) : Entry :=
  if holdsNul path then .nothing
  else if maxPathBytes < path.utf8ByteSize then .nameTooLong
  else d.follow (.start path) (Path.names path)

/-- Whether a path goes on behind a file. -/
def goesThroughFile (d : Disk) (path : String) : Bool :=
  (Location.way path).dropLast.any fun l => d.files.contains l.path

/-- Makes a folder where there is none yet, with those on the way to it. -/
def makeFolder (d : Disk) (path : String) : Except Fault Disk :=
  if holdsNul path then .error (.unusablePath .nul path)
  else match d.find path with
  | .folder => .ok d
  | .file _ => .error (.unusablePath .taken path)
  | .nameTooLong => .error (.unusablePath .nameTooLong path)
  | .nothing =>
      if d.goesThroughFile path then .error (.unusablePath .noFolder path)
      else .ok { d with folders := d.folders ++ (Location.way path).map Location.path }

/-- Writes a file into a folder that is there, in the place of one that had the path. -/
def write (d : Disk) (path : String) (file : StoredFile) : Except Fault Disk :=
  if holdsNul path then .error (.unusablePath .nul path)
  else match d.find path with
  | .folder => .error (.unusablePath .folder path)
  | .nameTooLong => .error (.unusablePath .nameTooLong path)
  | .file _ | .nothing => .ok { d with files := d.files.insert (Location.ofPath path).path file }

/-- What opening a path shows. -/
def contentAt (d : Disk) (path : String) : FileContent :=
  match d.find path with
  | .file f => f.content
  | _ => .unreadable

end Disk

end BuildingWorkflow
