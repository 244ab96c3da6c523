import BuildingWorkflow.Ifc.File
import BuildingWorkflow.Model.Basic
import BuildingWorkflow.Text.Path

/-!
Models read from files.

Every product of a class that carries building data becomes one element. A product that lacks what
an element needs is passed over, and the others are not affected.
-/
namespace BuildingWorkflow

/-- The entry of a set that holds the number of the set in the file. -/
def setNumber : String := "id"

mutual

/-- A value without the numbers of nested sets. -/
def withoutNumbers : Value → Value
  | .list items => .list (itemsWithoutNumbers items)
  | .map entries => .map (entriesWithoutNumbers entries)
  | v => v

def itemsWithoutNumbers : List Value → List Value
  | [] => []
  | v :: rest => withoutNumbers v :: itemsWithoutNumbers rest

def entriesWithoutNumbers : List (String × Value) → List (String × Value)
  | [] => []
  | (name, v) :: rest =>
      if name = setNumber then entriesWithoutNumbers rest
      else (name, withoutNumbers v) :: entriesWithoutNumbers rest

end

/-- The sets of a product without their numbers; what is not a set is left out. -/
def plainSets (sets : OrderedMap Value) : PropertySets :=
  .ofList (sets.entries.filterMap fun (name, v) =>
    match v with
    | .map entries => some (name, .ofList (entriesWithoutNumbers entries))
    | _ => none)

/-! ## Elements -/

/-- The classes whose products carry no building data. -/
def skippedClasses : List String := ["IfcAnnotation", "IfcGrid", "IfcPort", "IfcVirtualElement"]

/-- The properties that stand in the flat map too, from whatever set. -/
def promotedProperties : List String := ["IsExternal", "FireRating", "LoadBearing"]

/-- The property sets that stand in the flat map as a whole. -/
def promotedSets : List String := ["Pset_WallCommon"]

/-- The quantities that stand in the flat map unless a property has the name. -/
def promotedQuantities : List String := ["Length", "Width", "Height", "Area", "Volume"]

def promoteProperties (properties : OrderedMap Value) (psets : PropertySets) : OrderedMap Value :=
  psets.entries.foldl (fun properties (set, values) =>
    values.entries.foldl (fun properties (name, v) =>
      if promotedSets.contains set || promotedProperties.contains name
      then properties.insert name v else properties) properties) properties

def promoteQuantities (properties : OrderedMap Value) (qtos : PropertySets) : OrderedMap Value :=
  qtos.entries.foldl (fun properties (_, values) =>
    values.entries.foldl (fun properties (name, v) =>
      if promotedQuantities.contains name then properties.insertNew name v
      else properties) properties) properties

/-- The name of the first material of some layers that have one. -/
def firstLayerMaterial (layers : List Attribute) : Except Fault Attribute := do
  let materials ← layers.mapM fun layer => do (← layer.reference).required "Material"
  match materials.filter Attribute.truthy with
  | [] => return .value .null
  | material :: _ => (← material.reference).required "Name"

/-- The name of a material; that of a set of layers when it has layers. -/
def materialName (material : Entity) : Except Fault Attribute := do
  let material ←
    if material.isA "IfcMaterialLayerSetUsage" then (← material.required "ForLayerSet").reference
    else pure material
  if material.isA "IfcMaterialLayerSet" then
    match (material.attribute? "LayerSetName").filter Attribute.truthy with
    | some name => return name
    | none => firstLayerMaterial (← (← material.required "MaterialLayers").members)
  else return (material.attribute? "Name").getD (.value .null)

namespace Product

/-- An attribute that is written down when it is there and not null. -/
def optionalAttribute (p : Product) (name : String) : List (String × Value) :=
  match p.entity.attribute? name with
  | none => []
  | some a => if a.plain.isNull then [] else [(name, a.plain)]

def storeyEntry (p : Product) : Except Fault (List (String × Value)) :=
  match p.container with
  | some container =>
      if container.isA "IfcBuildingStorey" then do
        return [("BuildingStorey", (← container.required "Name").plain)]
      else .ok []
  | none => .ok []

def materialEntry (p : Product) : Except Fault (List (String × Value)) :=
  match p.material with
  | some material => do
      let name ← materialName material
      return if name.truthy then [("Material", name.plain)] else []
  | none => .ok []

/-- The properties that the product itself has. -/
def ownProperties (p : Product) : Except Fault (OrderedMap Value) := do
  let globalId ← p.entity.required "GlobalId"
  let name ← p.entity.required "Name"
  let name := if name.truthy then name.plain else .text ("Unnamed " ++ p.entity.type)
  let optional := ["Description", "ObjectType", "Tag"].flatMap p.optionalAttribute
  let storey ← p.storeyEntry
  let material ← p.materialEntry
  return .ofList ([("GlobalId", globalId.plain), ("Name", name)] ++ optional ++ storey ++ material)

/-- The element of a product. -/
def toElement (p : Product) : Except Fault Element := do
  let own ← p.ownProperties
  let psets := plainSets p.psets
  let qtos := plainSets p.qtos
  let properties := promoteQuantities (promoteProperties own psets) qtos
  return .create p.id p.entity.type properties psets qtos []

/-- Whether the product is of a class that carries building data. -/
def isLoaded (p : Product) : Bool := !skippedClasses.any p.entity.isA

end Product

/-! ## Models -/

namespace IfcFile

def supportedSchemas : List String := ["IFC2X3", "IFC4", "IFC4X1", "IFC4X2", "IFC4X3"]

/-- The elements of the products that have one, in the order of the file. -/
def elements (file : IfcFile) : List Element :=
  (file.products.filter Product.isLoaded).filterMap fun p => p.toElement.toOption

/-- The header of the first project. -/
def projectInfo (file : IfcFile) : Except Fault (Option ProjectInfo) :=
  match file.projects with
  | [] => .ok none
  | project :: _ => do
      let globalId ← project.required "GlobalId"
      let name ← project.required "Name"
      let description := (project.attribute? "Description").filter Attribute.truthy
      return some {
        globalId := globalId.plain
        name := if name.truthy then name.plain else .text "Unnamed Project"
        description := (description.map Attribute.plain).getD (.text "") }

end IfcFile

/-- What a file holds: a building model, or something that cannot be opened for a reason. -/
abbrev FileContent := Except String IfcFile

/-- What is no file that can be read. -/
def FileContent.unreadable : FileContent := .error "Unable to open file for reading"

/-- The model of a file. It goes by the given name, or by that of the file. -/
def loadModel (path : String) (content : FileContent) (name : Option String) :
    Except Fault Model := do
  match content with
  | .error reason => throw (.unreadableFile path reason)
  | .ok file =>
      if !IfcFile.supportedSchemas.contains file.schema then
        throw (.unsupportedSchema file.schema IfcFile.supportedSchemas)
      let fileName := Path.fileName path
      let project ← file.projectInfo
      return .create ((name.filter (· != "")).getD fileName) fileName (.ofText file.schema)
        file.elements .empty (some path) project

end BuildingWorkflow
