import BuildingWorkflow.Model.Basic

/-!
What a node leaves behind.

A node that was evaluated has one of five kinds of value; the three others mark nodes that have
none: the node failed, it was never evaluated because one of its predecessors has no value, or the
run was cancelled first.
-/
namespace BuildingWorkflow

/-- Elements, with the model they came from if it is known. -/
structure Collection where
  elements : List Element
  model : Option Model

namespace Collection

def empty : Collection := ⟨[], none⟩

/-- The same model with other elements. -/
def withElements (c : Collection) (elements : List Element) : Collection :=
  { c with elements := elements }

/-- Two collections in a row; the first model that is known is kept. -/
def append (c c' : Collection) : Collection := ⟨c.elements ++ c'.elements, c.model.or c'.model⟩

end Collection

inductive NodeResult
  | elements (collection : Collection)
  /-- Named values: totals and reports. -/
  | aggregate (values : OrderedMap Value) (unit : String)
  | value (value : Value)
  | text (text format fileName : String)
  | binary (payload : ByteArray) (format fileName : String)
  | failed (error errorType : String)
  | blocked (obstacle : String)
  | cancelled

namespace NodeResult

def kindName : NodeResult → String
  | elements _ => "elements"
  | aggregate _ _ => "aggregate"
  | value _ => "value"
  | text _ _ _ => "text"
  | binary _ _ _ => "binary"
  | failed _ _ => "node_failure"
  | blocked _ => "dependency_failure"
  | cancelled => "cancelled"

/-- The result of a node: a NaN that was worked out there is told apart from those of other
nodes. -/
def labelled (id : String) : NodeResult → NodeResult
  | aggregate values unit => aggregate (values.map (·.labelled ("result of " ++ id))) unit
  | value v => value (v.labelled ("result of " ++ id))
  | result => result

/-- Whether the result marks a node without a value. -/
def isError : NodeResult → Bool
  | failed _ _ | blocked _ | cancelled => true
  | _ => false

end NodeResult

end BuildingWorkflow
