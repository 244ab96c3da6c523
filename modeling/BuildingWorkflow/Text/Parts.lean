/-!
Parts of texts: occurrences, beginnings and ends, and texts cut at a separator.
-/
namespace BuildingWorkflow

/-- Whether the second list of characters occurs in the first. -/
def occursIn (part : List Char) : List Char → Bool
  | [] => part.isEmpty
  | c :: rest => part.isPrefixOf (c :: rest) || occursIn part rest

def hasPart (s part : String) : Bool := occursIn part.toList s.toList

def startsWith (s start : String) : Bool := start.toList.isPrefixOf s.toList

def endsWith (s ending : String) : Bool := ending.toList.isSuffixOf s.toList

/-- The parts between the separators: one more than there are separators. -/
def cutAt (separator : Char) : List Char → List (List Char)
  | [] => [[]]
  | c :: rest =>
      if c = separator then [] :: cutAt separator rest
      else match cutAt separator rest with
        | [] => [[c]]
        | part :: parts => (c :: part) :: parts

def cutText (separator : Char) (s : String) : List String :=
  (cutAt separator s.toList).map String.ofList

/-- What stands before and after the first separator, if there is one. -/
def cutOnce? (separator : Char) (s : String) : Option (String × String) :=
  match s.toList.dropWhile (· != separator) with
  | [] => none
  | _ :: rest => some (String.ofList (s.toList.takeWhile (· != separator)), String.ofList rest)

/-- A text without the characters of a class. -/
def without (drop : Char → Bool) (s : String) : String :=
  String.ofList (s.toList.filter fun c => !drop c)

end BuildingWorkflow
