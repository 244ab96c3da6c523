import BuildingWorkflow.Element.Lookup
import BuildingWorkflow.Node.Inputs
import BuildingWorkflow.Node.Options
import BuildingWorkflow.Value.Number

/-!
Filter nodes: one predicate, evaluated for every element.

Texts are compared without regard to case or blanks around them. The numeric operators read both
sides as numbers and fail on anything else. A value that is missing or null satisfies the negative
operators alone.
-/
namespace BuildingWorkflow

/-- A value as filters compare it. -/
def comparable (v : Value) : String :=
  match v with
  | .bool b => lower (boolText b)
  | v => lower (trim v.display)

namespace FilterOperator

def textual : List FilterOperator := [.equals, .notEquals, .contains, .startsWith, .endsWith]

def emptiness : List FilterOperator := [.isEmpty, .isNotEmpty]

def existence : List FilterOperator := [.present, .absent]

/-- The operators that a missing value satisfies. -/
def negative : FilterOperator → Bool
  | .notEquals | .isEmpty | .absent => true
  | _ => false

end FilterOperator

/-- The operators that a type of filter supports. -/
def FilterType.operators : FilterType → List FilterOperator
  | .elementType => FilterOperator.textual
  | .psetExists => FilterOperator.existence
  | .property => Choice.all
  | .id | .name | .description | .level => FilterOperator.textual ++ FilterOperator.emptiness

/-- Whether both sides are numbers in a given relation. -/
def compareNumbers (relation : Binary64 → Binary64 → Bool) (v : Value) (expected : String) :
    Except Fault Bool := do
  let left ← v.number?
  match left, readNumber? expected with
  | some x, some y => return relation x y
  | _, _ => return false

/-- Equal as texts, or, for a numeric value, equal as numbers. -/
def equalsExpected (v : Value) (expected : String) : Except Fault Bool :=
  if comparable v = lower (trim expected) then .ok true
  else if v.isNumber then compareNumbers Binary64.same v expected
  else .ok false

/-- Whether a value that is there satisfies an operator. -/
def compareValue (v : Value) (operator : FilterOperator) (expected : String) :
    Except Fault Bool :=
  let actual := comparable v
  let target := lower (trim expected)
  match operator with
  | .present => .ok true
  | .absent => .ok false
  | .isEmpty => .ok (actual == "")
  | .isNotEmpty => .ok (actual != "")
  | .greaterThan => compareNumbers (fun x y => y.less x) v expected
  | .lessThan => compareNumbers Binary64.less v expected
  | .equals => equalsExpected v expected
  | .notEquals => (equalsExpected v expected).map (!·)
  | .contains => .ok (hasPart actual target)
  | .startsWith => .ok (startsWith actual target)
  | .endsWith => .ok (endsWith actual target)

/-- Whether what was found, if anything, satisfies an operator. -/
def compare (found : Option Value) (operator : FilterOperator) (expected : String) :
    Except Fault Bool :=
  match found with
  | none | some .null => .ok operator.negative
  | some v => compareValue v operator expected

/-- The elements that pass a test that may fail. -/
def keepWhere (test : Element → Except Fault Bool) : List Element → Except Fault (List Element)
  | [] => .ok []
  | e :: rest => do
      let keep ← test e
      let kept ← keepWhere test rest
      return if keep then e :: kept else kept

namespace FilterOptions

/-- The value that the filter looks at. -/
def valueOf (options : FilterOptions) (e : Element) : Option Value :=
  match options.type with
  | .elementType => some (.text e.type)
  | .id => some (.text e.id)
  | .name => e.properties.find? "Name"
  | .description => e.properties.find? "Description"
  | .level => e.storey?.map .text
  | .psetExists | .property =>
      (match options.set with
        | none | some "" | some "any" => e.resolvePath? options.property
        | some set => e.findProperty? options.property (some set)).map Found.value

/-- The name of the set for which a filter on sets looks: the first that is given. -/
def wantedSet (options : FilterOptions) : String :=
  let given := [options.set.getD "", options.value, options.property]
  (given.find? (· != "")).getD ""

def evaluate (options : FilterOptions) (inputs : Inputs) : Except Fault NodeResult := do
  if !options.type.operators.contains options.operator then
    throw (.unsupportedOperator (Choice.name options.type) (Choice.name options.operator)
      ((options.type.operators.map Choice.name).mergeSort))
  let source ← inputs.main
  match options.type with
  | .psetExists =>
      let set := options.wantedSet
      if set = "" then
        throw (.node "Filter on property set existence needs a set name" [])
      let wanted := options.operator = .present
      let kept := source.elements.filter fun e =>
        (e.psets.contains set || e.qtos.contains set) == wanted
      return .elements (source.withElements kept)
  | type =>
      if type = .property && trim options.property = "" then
        throw (.node "Filter on property value needs a property name" [])
      let kept ← keepWhere
        (fun e => compare (options.valueOf e) options.operator options.value) source.elements
      return .elements (source.withElements kept)

end FilterOptions

end BuildingWorkflow
