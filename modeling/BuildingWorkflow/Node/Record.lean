import BuildingWorkflow.Element.Record
import BuildingWorkflow.Node.Result
import BuildingWorkflow.Text.Base64

/-!
Results of nodes as records.

A record of elements holds them in full. `NodeResult.brief` puts their identifiers in the place of
the elements.
-/
namespace BuildingWorkflow

namespace NodeResult

/-- The fields of a record after the kind. -/
def fields : NodeResult → List (String × Value)
  | elements c =>
      [("count", .int c.elements.length), ("elements", .list (c.elements.map Element.record))] ++
        optionalEntry "model" Model.summary c.model
  | aggregate values unit => [("values", .map values.entries), ("unit", .text unit)]
  | value v => [("value", v)]
  | text s format fileName =>
      [("format", .text format), ("file_name", .text fileName), ("text", .text s)]
  | binary payload format fileName =>
      [("format", .text format), ("file_name", .text fileName), ("size", .int payload.size),
        ("payload_base64", .text (String.ofList (Base64.encode payload.toList)))]
  | failed error errorType => [("error", .text error), ("error_type", .text errorType)]
  | blocked obstacle => [("upstream", .text obstacle)]
  | cancelled => []

def record (result : NodeResult) : Value := .map (("kind", .text result.kindName) :: result.fields)

/-- The record with the identifiers of elements in place of the elements. -/
def brief (result : NodeResult) : Value :=
  match result with
  | elements c =>
      .map ((("kind", .text result.kindName) :: result.fields.filter (·.1 != "elements")) ++
        [("element_ids", .list (c.elements.map fun e => .text e.id))])
  | result => result.record

end NodeResult

end BuildingWorkflow
