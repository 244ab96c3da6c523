import BuildingWorkflow.Element.Basic

/-!
Elements as records: mappings of plain values.
-/
namespace BuildingWorkflow

def Classification.record (c : Classification) : Value :=
  .map [("system", .text c.system), ("code", .text c.code), ("description", .text c.description)]

def Triple.items (t : Triple) : Value := .list [.float t.x, .float t.y, .float t.z]

def Transform.record (t : Transform) : Value :=
  .map [("translation", t.offset.items), ("rotation", t.rotation.items),
    ("scale", t.scale.items)]

def PropertyInfo.record (info : PropertyInfo) : Value :=
  .map [("name", .text info.name), ("exists", .bool info.found), ("value", info.value),
    ("pset_name", .text info.setName)]

def setsRecord (sets : PropertySets) : Value :=
  .map (sets.map fun values => Value.map values.entries).entries

/-- An entry for a field that may be missing. -/
def optionalEntry {α : Type} (name : String) (record : α → Value) : Option α → List (String × Value)
  | some a => [(name, record a)]
  | none => []

/-- An element as a record; what no node attached is left out. -/
def Element.record (e : Element) : Value :=
  .map ([("id", .text e.id), ("express_id", .int e.expressId), ("type", .text e.type),
      ("properties", .map e.properties.entries), ("psets", setsRecord e.psets),
      ("qtos", setsRecord e.qtos),
      ("classifications", .list (e.classifications.map Classification.record))] ++
    optionalEntry "transform" Transform.record e.transform ++
    optionalEntry "property_info" PropertyInfo.record e.propertyInfo)

end BuildingWorkflow
