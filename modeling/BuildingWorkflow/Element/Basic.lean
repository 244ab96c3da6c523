import BuildingWorkflow.Text.Case
import BuildingWorkflow.Text.Digit
import BuildingWorkflow.Text.Parts
import BuildingWorkflow.Value.Equality
import BuildingWorkflow.Value.Text

/-!
Elements of a building: walls, slabs, spaces and whatever else a model is made of.

An element carries a flat map of properties, property sets and quantity sets by name, and what
earlier nodes of a workflow attached to it. Elements are values; a node that changes one builds a
new one.
-/
namespace BuildingWorkflow

structure Triple where
  x : Binary64
  y : Binary64
  z : Binary64
deriving DecidableEq

/-- A placement; the rotation is in degrees around the three axes. -/
structure Transform where
  offset : Triple
  rotation : Triple
  scale : Triple
deriving DecidableEq

/-- A reference into a classification system. -/
structure Classification where
  system : String
  code : String
  description : String
deriving DecidableEq

/-- What the last look-up of a property found, kept for the nodes downstream. -/
structure PropertyInfo where
  name : String
  found : Bool
  value : Value
  setName : String

/-- Property or quantity sets by name. -/
abbrev PropertySets := OrderedMap (OrderedMap Value)

structure Element where
  id : String
  expressId : Int
  type : String
  properties : OrderedMap Value
  psets : PropertySets
  qtos : PropertySets
  classifications : List Classification
  transform : Option Transform
  propertyInfo : Option PropertyInfo

/-- The identifier of an element: its number in the model and its class in upper case. -/
def elementId (expressId : Int) (type : String) : String :=
  intText expressId ++ "-" ++ upper type

namespace Element

/-- An element as it comes out of a model, with nothing attached to it yet. -/
def create (expressId : Int) (type : String) (properties : OrderedMap Value)
    (psets qtos : PropertySets) (classifications : List Classification) : Element where
  id := elementId expressId type
  expressId := expressId
  type := type
  properties := properties
  psets := psets
  qtos := qtos
  classifications := classifications
  transform := none
  propertyInfo := none

/-- The class of an element in upper case, as classes are compared. -/
def typeKey (e : Element) : String := upper e.type

/-- The class of an element without the mark of the standard in front of it. -/
def typeLabel (e : Element) : String :=
  if startsWith e.typeKey "IFC" then String.ofList (e.type.toList.drop 3) else e.type

def name? (e : Element) : Option String :=
  match e.properties.find? "Name" with
  | none | some .null => none
  | some v => some v.display

def globalId (e : Element) : Value := (e.properties.find? "GlobalId").getD .null

/-- Whether the element is of one of some classes, whatever their case. -/
def isType (e : Element) (types : List String) : Bool := (types.map upper).contains e.typeKey

def spatialTypes : List String :=
  ["IFCPROJECT", "IFCSITE", "IFCBUILDING", "IFCBUILDINGSTOREY", "IFCSPACE"]

/-- Whether the element is part of the spatial structure of the building. -/
def isSpatial (e : Element) : Bool := spatialTypes.contains e.typeKey

def isOpening (e : Element) : Bool := startsWith e.typeKey "IFCOPENING"

/-- Writes one value into a set, which is created when it is missing. -/
def writeInSet (sets : PropertySets) (set name : String) (value : Value) : PropertySets :=
  sets.update set .empty (·.insert name value)

/-- Equality of triples as numbers. -/
def sameTriple (t t' : Triple) : Bool := t.x.same t'.x && t.y.same t'.y && t.z.same t'.z

def sameTransform (t t' : Transform) : Bool :=
  sameTriple t.offset t'.offset && sameTriple t.rotation t'.rotation &&
    sameTriple t.scale t'.scale

def sameInfo (i i' : PropertyInfo) : Bool :=
  i.name == i'.name && i.found == i'.found && i.value.same i'.value && i.setName == i'.setName

/-- Both absent, or both present and equal. -/
def sameOption {α : Type} (eq : α → α → Bool) : Option α → Option α → Bool
  | none, none => true
  | some a, some b => eq a b
  | _, _ => false

/-- Equality of elements in all they carry, values being compared by what they stand for. -/
def same (e e' : Element) : Bool :=
  e.id == e'.id && e.expressId == e'.expressId && e.type == e'.type &&
    e.properties.sameBy Value.same e'.properties &&
    e.psets.sameBy (·.sameBy Value.same) e'.psets &&
    e.qtos.sameBy (·.sameBy Value.same) e'.qtos &&
    e.classifications == e'.classifications &&
    sameOption sameTransform e.transform e'.transform &&
    sameOption sameInfo e.propertyInfo e'.propertyInfo

end Element

end BuildingWorkflow
