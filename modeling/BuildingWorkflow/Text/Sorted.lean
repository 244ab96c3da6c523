/-!
Lists of texts in the order of their code points.
-/
namespace BuildingWorkflow

/-- Names in order, each once. -/
def sortedNames (names : List String) : List String := names.eraseDups.mergeSort

def leastName? : List String → Option String
  | [] => none
  | name :: rest =>
      match leastName? rest with
      | none => some name
      | some least => some (if least < name then least else name)

end BuildingWorkflow
