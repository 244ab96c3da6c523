import BuildingWorkflow.Text.Parts

/-!
Paths of files: names between slashes. Empty names and single dots count for nothing.
-/
namespace BuildingWorkflow

namespace Path

/-- The names of a path. -/
def names (path : String) : List String :=
  (cutText '/' path).filter fun name => name != "" && name != "."

/-- The slashes in front of a path: one, but two where there are exactly two. -/
def root (path : String) : String :=
  if !startsWith path "/" then ""
  else if startsWith path "//" && !startsWith path "///" then "//"
  else "/"

/-- The path of some names behind a root; a single dot when there is nothing to write. -/
def written (root : String) (names : List String) : String :=
  let path := root ++ String.intercalate "/" names
  if path = "" then "." else path

/-- A path written with what counts alone. -/
def normal (path : String) : String := written (root path) (names path)

/-- The last name of a path. -/
def fileName (path : String) : String := (names path).getLast?.getD ""

/-- The part of a name from its last dot on. The dot must neither begin nor end the name. -/
def suffix (name : String) : String :=
  let reversed := name.toList.reverse
  let ending := reversed.takeWhile (· != '.')
  let before := (reversed.dropWhile (· != '.')).drop 1
  if ending.isEmpty || before.isEmpty then "" else String.ofList ('.' :: ending.reverse)

/-- The folder of a path. -/
def folder (path : String) : String := written (root path) (names path).dropLast

/-- A file in a folder. -/
def inFolder (folder name : String) : String := written (root folder) (names folder ++ names name)

end Path

end BuildingWorkflow
