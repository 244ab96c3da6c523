import BuildingWorkflow.Node.Options
import BuildingWorkflow.Node.Result
import BuildingWorkflow.Value.Number

/-!
Parameter nodes: a constant of a declared type.
-/
namespace BuildingWorkflow

def trueWords : List String := ["true", "1", "yes", "on"]

/-- The parts of a text between commas that are not blank. -/
def listItems (s : String) : List Value :=
  (((cutText ',' s).map trim).filter (· != "")).map .text

/-- A value as one of a declared type. Numbers that are whole become whole numbers. -/
def coerce (type : ParameterType) (v : Value) : Except Fault Value :=
  match type with
  | .number => do
      match ← v.number? with
      | some x => return .ofFloat x
      | none => throw (.node ("Parameter value " ++ v.literal ++ " is not a number")
          [("param_type", .text "number")])
  | .boolean =>
      match v with
      | .text s => .ok (.bool (trueWords.contains (lower (trim s))))
      | v => .ok (.bool v.truthy)
  | .list =>
      match v with
      | .list items => .ok (.list items)
      | .null => .ok (.list [])
      | v => .ok (.list (listItems v.display))
  | .text =>
      match v with
      | .null => .ok (.text "")
      | v => .ok (.text v.display)

def ParameterOptions.evaluate (options : ParameterOptions) : Except Fault NodeResult := do
  let raw := match options.type, options.items with
    | .list, some items => Value.text items
    | _, _ => options.value
  return .value (← coerce options.type raw)

end BuildingWorkflow
