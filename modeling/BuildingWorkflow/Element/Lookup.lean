import BuildingWorkflow.Element.Basic
import BuildingWorkflow.Text.Blank

/-!
Where a property of an element is found.

Filters, quantities, property nodes and exports all look values up here, so they agree on where a
value lives.
-/
namespace BuildingWorkflow

/-- A value that was found, with the name of its set; a value of the flat map has no set. -/
structure Found where
  value : Value
  setName : String

/-- The set name that stands for a search through all sets. -/
def anySet : String := "any"

/-- A value in the set of a given name. -/
def findInSet? (sets : PropertySets) (set name : String) : Option Found :=
  ((sets.find? set).bind (·.find? name)).map (⟨·, set⟩)

/-- A value in the first set that has one of a given name. -/
def findInAnySet? (sets : PropertySets) (name : String) : Option Found :=
  sets.entries.findSome? fun (set, values) => (values.find? name).map (⟨·, set⟩)

namespace Element

def findFlat? (e : Element) (name : String) : Option Found :=
  (e.properties.find? name).map (⟨·, ""⟩)

/-- Looks a property up: in a named set first and then in the flat map, or, when no set is named,
in the flat map first and then in all property and quantity sets. -/
def findProperty? (e : Element) (name : String) (set : Option String) : Option Found :=
  match set with
  | none | some "" | some "any" =>
      (e.findFlat? name).or ((findInAnySet? e.psets name).or (findInAnySet? e.qtos name))
  | some set =>
      (findInSet? e.psets set name).or ((findInSet? e.qtos set name).or (e.findFlat? name))

/-- Looks a path up. `Set.Name` reads that set alone; a bare name is looked up everywhere, and then
`type` and `id` name the element's class and identifier. -/
def resolvePath? (e : Element) (path : String) : Option Found :=
  let path := trim path
  match cutOnce? '.' path with
  | some (set, name) => (findInSet? e.psets set name).or (findInSet? e.qtos set name)
  | none =>
      (e.findProperty? path none).or
        (if lower path = "type" then some ⟨.text e.type, ""⟩
        else if lower path = "id" then some ⟨.text e.id, ""⟩
        else none)

/-- The text of the first name that a map gives a present value. -/
def firstPresent? (values : OrderedMap Value) (names : List String) : Option Value :=
  names.findSome? fun name => (values.find? name).filter Value.present

/-- The storey that an element sits on, if any of its data says so. -/
def storey? (e : Element) : Option String :=
  ((firstPresent? e.properties ["BuildingStorey", "Level"]).or
    (((e.psets.find? "Pset_SpaceLevelInfo").bind (firstPresent? · ["Reference"])).or
      (e.psets.values.findSome? (firstPresent? · ["Level", "StoreyName", "BuildingStorey"])))).map
    Value.display

def material? (e : Element) : Option String :=
  ((firstPresent? e.properties ["Material"]).or
    ((e.psets.find? "Pset_MaterialCommon").bind (firstPresent? · ["Name"]))).map Value.display

end Element

end BuildingWorkflow
