import BuildingWorkflow.Fault

/-!
Rejected graphs as records.
-/
namespace BuildingWorkflow

def Issue.record (issue : Issue) : Value :=
  .map [("code", .text issue.code), ("message", .text issue.message),
    ("node_id", issue.node.elim .null .text),
    ("edge_index", issue.edge.elim .null fun i => .int i)]

/-- The record of a fault of a graph: what is wrong in one text, and every issue. -/
def rejection (fault : Fault) : List (String × Value) :=
  [("error", .text "validation_error"), ("message", .text fault.message),
    ("issues", .list ((fault.issues?.getD []).map Issue.record))]

end BuildingWorkflow
