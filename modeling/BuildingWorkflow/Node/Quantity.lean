import BuildingWorkflow.Element.Lookup
import BuildingWorkflow.Element.Measure
import BuildingWorkflow.Node.Inputs
import BuildingWorkflow.Node.Options

/-!
Quantity nodes: one measure summed over the elements, in one total or by groups.
-/
namespace BuildingWorkflow

namespace Measure

/-- What an element counts whose quantity sets say nothing. -/
def assumed : Measure → Binary64
  | length => 3
  | area => 10
  | volume => 8
  | weight => 500
  | count => 1

def unit : Measure → String
  | length => "m"
  | area => "m²"
  | volume => "m³"
  | count => ""
  | weight => "kg"

end Measure

def Element.contribution (e : Element) (m : Measure) : Except Fault Binary64 :=
  (e.measure? m).map (·.getD m.assumed)

/-- The group of an element; elements without one are of unknown group. -/
def Grouping.keyOf (grouping : Grouping) (e : Element) : String :=
  let key := match grouping with
    | .none => some "Total"
    | .type => some e.typeLabel
    | .material => e.material?
    | .level => e.storey?
  (key.filter (· != "")).getD "Unknown"

/-- Adds what each element counts to the total of its group. -/
def addUp (grouping : Grouping) (m : Measure) (totals : OrderedMap Binary64) :
    List Element → Except Fault (OrderedMap Binary64)
  | [] => .ok totals
  | e :: rest => do
      let x ← e.contribution m
      addUp grouping m (totals.update (grouping.keyOf e) 0 (· + x)) rest

/-- A total with two decimal places, as a whole number if it is one. -/
def roundedTotal (x : Binary64) : Value := .ofFloat (x.roundPlaces 2)

def QuantityOptions.evaluate (options : QuantityOptions) (inputs : Inputs) :
    Except Fault NodeResult := do
  let unit := if options.unit = "" then options.measure.unit else options.unit
  let source ← inputs.main
  if source.elements.isEmpty then
    return .aggregate (.ofList [("Total", .int 0)]) unit
  let totals ← addUp options.grouping options.measure .empty source.elements
  return .aggregate (totals.map roundedTotal) unit

end BuildingWorkflow
