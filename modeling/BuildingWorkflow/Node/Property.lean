import BuildingWorkflow.Element.Lookup
import BuildingWorkflow.Node.Inputs
import BuildingWorkflow.Node.Options

/-!
Property nodes: one property is looked up, written or removed on every element.
-/
namespace BuildingWorkflow

/-- The set that takes values written without naming one. -/
def fallbackSet : String := "CustomProperties"

/-- The property and the set that a name and a target denote: in `Set:Name` the name gives the
set, unless that part is blank. -/
def splitName (name target : String) : String × String :=
  match cutOnce? ':' name with
  | some (set, name) => (trim name, if trim set = "" then target else trim set)
  | none => (trim name, target)

/-- The value that a result supplies to the value inlet. -/
def valueFrom : NodeResult → Except Fault Value
  | .value v => .ok v
  | .aggregate values unit =>
      match values.values with
      | [v] => .ok v
      | _ => .error (notSingle (.aggregate values unit))
  | .elements c =>
      let infos := c.elements.filterMap Element.propertyInfo
      match Value.distinct ((infos.filter PropertyInfo.found).map PropertyInfo.value), infos with
      | [v], _ => .ok v
      | _, info :: _ =>
          if info.found then .ok info.value
          else .error noProperty
      | _, [] => .error noProperty
  | result => .error (notSingle result)
where
  notSingle (result : NodeResult) : Fault :=
    .invalidInput valueInlet "a single value" result.kindName
  noProperty : Fault :=
    .invalidInput valueInlet "elements carrying a looked-up property" "no property value"

namespace Element

/-- Attaches what a look-up finds. -/
def getProperty (e : Element) (name set : String) : Element :=
  let found := e.findProperty? name (some set)
  let fromSet := (found.map Found.setName).getD ""
  { e with propertyInfo := some {
      name := name
      found := found.isSome
      value := (found.map Found.value).getD .null
      setName := if fromSet != "" then fromSet else if set = anySet then "" else set } }

/-- Writes a value into a set and into the flat map. -/
def setProperty (e : Element) (name set : String) (value : Value) : Element :=
  let target := if set = anySet then fallbackSet else set
  { e with
    properties := e.properties.insert name value
    psets := writeInSet e.psets target name value
    propertyInfo := some ⟨name, true, value, target⟩ }

/-- Removes a name from one set, or from every set. -/
def removeFrom (sets : PropertySets) (set name : String) : PropertySets :=
  if set = anySet then sets.map (·.erase name) else sets.modify set (·.erase name)

/-- Removes a property from the flat map and from the sets that are meant. -/
def removeProperty (e : Element) (name set : String) : Element :=
  let fromSet := ((e.findProperty? name (some set)).map Found.setName).getD ""
  { e with
    properties := e.properties.erase name
    psets := removeFrom e.psets set name
    qtos := removeFrom e.qtos set name
    propertyInfo := some ⟨name, false, .null, fromSet⟩ }

end Element

namespace PropertyOptions

/-- The value to write: that of the value inlet when it is asked for and fed, or the configured
one. -/
def valueFor (options : PropertyOptions) (inputs : Inputs) : Except Fault Value :=
  match options.useValueInput, inputs.single? valueInlet with
  | true, some result => valueFrom result
  | _, _ => .ok options.value

def evaluate (options : PropertyOptions) (inputs : Inputs) : Except Fault NodeResult := do
  let source ← inputs.main
  let (name, set) := splitName options.name (if options.set = "" then anySet else options.set)
  if name = "" then return .elements source
  let value ← options.valueFor inputs
  let edit : Element → Element := match options.action with
    | .get => (·.getProperty name set)
    | .set | .add => (·.setProperty name set value)
    | .remove => (·.removeProperty name set)
  return .elements (source.withElements (source.elements.map edit))

end PropertyOptions

end BuildingWorkflow
