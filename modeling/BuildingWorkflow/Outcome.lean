import BuildingWorkflow.Fault

/-!
Outcomes of work that may fail, as values.

A failure carries a fault or any other value. Taking the value out of a failure raises its fault, or
a fault that tells of the value.
-/
namespace BuildingWorkflow

inductive Outcome
  | success (value : Value)
  | failure (error : Value)
  | faulty (fault : Fault)

namespace Outcome

def isSuccess : Outcome → Bool
  | success _ => true
  | failure _ | faulty _ => false

def unwrap : Outcome → Except Fault Value
  | success v => .ok v
  | failure v => .error (.foreign "ValueError" ("Cannot unwrap Failure: " ++ v.display))
  | faulty fault => .error fault

def unwrapOr (default : Value) : Outcome → Value
  | success v => v
  | failure _ | faulty _ => default

/-- The error as text; a success has none. -/
def errorText : Outcome → String
  | success _ => Value.null.display
  | failure v => v.display
  | faulty fault => fault.report

end Outcome

end BuildingWorkflow
