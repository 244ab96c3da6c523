import BuildingWorkflow.Fault
import BuildingWorkflow.OrderedMap

/-!
Files of building models as the library that reads them shows them: entities with attributes, and
products with their property sets, their container and their material.
-/
namespace BuildingWorkflow

mutual

/-- An entity with its class, the classes above it and its attributes. -/
inductive Entity
  | mk (type : String) (ancestors : List String) (attributes : List (String × Attribute))

/-- An attribute is a value, another entity, or several of them. -/
inductive Attribute
  | value (v : Value)
  | entity (e : Entity)
  | items (attributes : List Attribute)

end

instance : Inhabited Entity := ⟨.mk "" [] []⟩

instance : Inhabited Attribute := ⟨.value .null⟩

namespace Entity

def type : Entity → String
  | mk type _ _ => type

def ancestors : Entity → List String
  | mk _ ancestors _ => ancestors

def attributes : Entity → List (String × Attribute)
  | mk _ _ attributes => attributes

/-- Whether the entity is of a class, itself or by the classes above it. -/
def isA (e : Entity) (name : String) : Bool := e.type == name || e.ancestors.contains name

def attribute? (e : Entity) (name : String) : Option Attribute := e.attributes.lookup name

/-- An attribute that the class of the entity has to have. -/
def required (e : Entity) (name : String) : Except Fault Attribute :=
  match e.attribute? name with
  | some a => .ok a
  | none => .error (.foreign "AttributeError"
      s!"entity instance of type 'IFC4.{e.type}' has no attribute '{name}'")

end Entity

namespace Attribute

def truthy : Attribute → Bool
  | value v => v.truthy
  | entity _ => true
  | items attributes => !attributes.isEmpty

mutual

/-- An attribute as a plain value; entities are not plain and count as null. -/
def plain : Attribute → Value
  | value v => v
  | entity _ => .null
  | items attributes => .list (plainAll attributes)

def plainAll : List Attribute → List Value
  | [] => []
  | a :: rest => a.plain :: plainAll rest

end

/-- The entity that an attribute refers to. -/
def reference : Attribute → Except Fault Entity
  | entity e => .ok e
  | _ => .error (.foreign "AttributeError" "no entity")

/-- The members of an attribute that has several. Those of a text are its characters, those of a
mapping its names. -/
def members : Attribute → Except Fault (List Attribute)
  | items attributes => .ok attributes
  | value (.list values) => .ok (values.map value)
  | value (.text s) => .ok (s.toList.map fun c => value (.text (String.singleton c)))
  | value (.map entries) => .ok (entries.map fun entry => value (.text entry.1))
  | _ => .error (.foreign "TypeError" "no list")

end Attribute

/-- The name of the kind of a value, as faults tell it. -/
def Value.kindName : Value → String
  | null => "NoneType"
  | bool _ => "bool"
  | int _ => "int"
  | float _ => "float"
  | text _ => "str"
  | list _ => "list"
  | map _ => "dict"

/-- A product: an entity with a number in the file and with sets of properties and quantities. The
sets are as they stand in the file, with the numbers of the sets among their entries. -/
structure Product where
  id : Int
  entity : Entity
  psets : OrderedMap Value
  qtos : OrderedMap Value
  container : Option Entity
  material : Option Entity

structure IfcFile where
  schema : String
  products : List Product
  projects : List Entity

end BuildingWorkflow
