import BuildingWorkflow.Node.Record
import BuildingWorkflow.Run.Schedule

/-!
Reports of runs.

A run ends when every node has a result, when it is cancelled, or with a fault of the engine. When
it is to be cancelled depends on whoever may cancel it.
-/
namespace BuildingWorkflow

structure Report where
  order : List String
  /-- Exactly one result for each node. -/
  results : Store
  cancelled : Bool

namespace Report

def succeeded (r : Report) : Bool := !r.cancelled && r.results.failures.isEmpty

/-- The report as a record, with the results written in a given way. -/
def record (r : Report) (write : NodeResult → Value) : List (String × Value) :=
  [("order", Fault.texts r.order), ("cancelled", .bool r.cancelled),
    ("failures", Fault.texts r.results.failures.mergeSort),
    ("results", .map (r.results.map write).entries)]

end Report

/-- When a run is cancelled. -/
inductive Cancellation
  | never
  | before
  /-- As soon as nothing but unanswered evaluations is left. -/
  | atRest
deriving DecidableEq

/-- How a run ends. -/
inductive RunEnding
  | reported (report : Report)
  | faulty (fault : Fault)
  /-- Some evaluation is never answered. -/
  | endless

namespace RunState

/-- The report of a run whose tasks are all over. -/
def finished (p : Plan) (s : RunState) : Report := ⟨p.order, s.store, false⟩

/-- The report of a run that is cancelled. -/
def stopped (p : Plan) (s : RunState) : Report := ⟨p.order, cancelRest p s.store, true⟩

/-- The end of a run that has come to a state in which no task can do anything. -/
def ending (p : Plan) (s : RunState) (cancellation : Cancellation) : RunEnding :=
  match s.fault with
  | some fault => .faulty (.execution "Workflow execution failed" [("reason", .text fault.report)])
  | none =>
      if s.complete p then .reported (s.finished p)
      else if cancellation = .atRest then .reported (s.stopped p)
      else .endless

end RunState

namespace Engine

/-- The end of a run of a plan, with the state in which it ended. -/
def run (engine : Engine) (p : Plan) (cancellation : Cancellation) : RunEnding × RunState :=
  if cancellation = .before then (.reported (RunState.initial.stopped p), .initial)
  else
    let s := Schedule.settled engine p
    (s.ending p cancellation, s)

/-- The end of a run of a submitted graph. Nothing is begun unless the graph is valid. -/
def runDraft (engine : Engine) (draft : Draft) (cancellation : Cancellation) :
    Except Fault (RunEnding × RunState) := do
  return engine.run (← draft.validate).plan cancellation

end Engine

/-- What the evaluations of a run handed to the writer, in order. -/
def RunState.requests (p : Plan) (s : RunState) : List ExportRequest :=
  s.begun.filterMap fun (id, inputs) =>
    (p.nodes.find? id).bind fun node => node.options.request? inputs

end BuildingWorkflow
