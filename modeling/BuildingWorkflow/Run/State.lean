import BuildingWorkflow.Graph.Plan
import BuildingWorkflow.Node.Evaluate

/-!
Runs as transitions.

Every node of a plan has a task. The task waits until the tasks of all predecessors are over,
gathers what feeds the node, takes one of a limited number of slots, evaluates the node and records
its result. Tasks take turns in any order; `advance` is one turn of one task, from one wait to the
next. A node is passed over when one of its predecessors has no value, and an evaluation that is
never answered keeps its slot until its time is up.
-/
namespace BuildingWorkflow

/-- What a run needs besides its plan. -/
structure Engine where
  help : Collaborators
  /-- How many nodes are evaluated at once. -/
  slots : Nat
  /-- After how many seconds an evaluation is given up; never if there is none. -/
  timeout : Option Binary64
  /-- Whether a clock is kept of evaluations; none of them ends at once then. -/
  timed : Bool := timeout.isSome

/-- The state of a run. -/
structure RunState where
  store : Store
  /-- The nodes that wait for a slot, with what feeds them. -/
  queued : OrderedMap Inputs
  /-- The nodes that are being evaluated, with what feeds them. -/
  active : OrderedMap Inputs
  /-- Every evaluation that was begun, in order. -/
  begun : List (String × Inputs)
  /-- The nodes whose tasks are over, in order. -/
  ended : List String
  /-- A fault of the engine itself, after which nothing moves. -/
  fault : Option Fault

/-- The result of a node whose evaluation fails. Faults that are not those of nodes have at least
their name as text. -/
def failureOf (fault : Fault) : NodeResult :=
  if fault.isNodeFault || fault.report != "" then .failed fault.report fault.name
  else .failed fault.name fault.name

/-- The result of an evaluation, unless it is never answered. -/
def Collaborators.result? (help : Collaborators) (node : Node) (inputs : Inputs) :
    Option NodeResult :=
  match node.options.evaluate inputs help with
  | .value result => some (result.labelled node.id)
  | .raised fault => some (failureOf fault)
  | .silent => none

namespace Engine

/-- The result of a node whose time is up. -/
def expired (id : String) (seconds : Binary64) : NodeResult :=
  let fault := Fault.timeout id (.float seconds)
  .failed fault.message fault.name

/-- The result of an evaluation, unless it is neither answered nor given up. -/
def result? (engine : Engine) (node : Node) (inputs : Inputs) : Option NodeResult :=
  (engine.help.result? node inputs).or (engine.timeout.map (expired node.id))

end Engine

namespace RunState

def initial : RunState := ⟨.empty, .empty, .empty, [], [], none⟩

/-- A fault of the engine, if there is one, or a new state. -/
def orFault (s : RunState) (next : Except Fault RunState) : RunState :=
  match next with
  | .ok s => s
  | .error fault => { s with fault := some fault }

/-- The predecessor on account of which a node is passed over: the first without a value. -/
def obstacle? (p : Plan) (store : Store) (id : String) : Option String :=
  (p.predecessors id).find? fun before => !store.ok before

/-- The task of a node is over with a result. -/
def recorded (s : RunState) (id : String) (result : NodeResult) : Except Fault RunState := do
  return { s with store := ← s.store.record id result, ended := s.ended ++ [id] }

/-- The tasks of all predecessors are over: the node is passed over, or queued with what feeds
it. -/
def enqueue (p : Plan) (s : RunState) (id : String) : Except Fault RunState :=
  match obstacle? p s.store id with
  | some obstacle => s.recorded id (.blocked obstacle)
  | none => do return { s with queued := s.queued.insert id (← p.inputsFor id s.store) }

/-- The node takes a slot. -/
def begin (s : RunState) (id : String) (inputs : Inputs) : RunState :=
  { s with
    queued := s.queued.erase id
    active := s.active.insert id inputs
    begun := s.begun ++ [(id, inputs)] }

/-- The node leaves its slot with a result. -/
def finish (s : RunState) (id : String) (result : NodeResult) : Except Fault RunState :=
  { s with active := s.active.erase id }.recorded id result

/-- One turn of the task of a node, if the task can do anything now. -/
def advance (engine : Engine) (p : Plan) (s : RunState) (id : String) : Option RunState :=
  match s.fault, p.nodes.find? id with
  | none, some node =>
      if s.ended.contains id then none
      else match s.active.find? id, s.queued.find? id with
        | some inputs, _ => (engine.result? node inputs).map fun r => s.orFault (s.finish id r)
        | none, some inputs =>
            if s.active.size < engine.slots then some (s.begin id inputs) else none
        | none, none =>
            if (p.predecessors id).all s.ended.contains then some (s.orFault (enqueue p s id))
            else none
  | _, _ => none

/-- A turn of the first task in the order of the plan that can do anything. -/
def advanceFirst (engine : Engine) (p : Plan) (s : RunState) : Option RunState :=
  p.order.findSome? (advance engine p s)

/-- Turn after turn until no task can do anything, but no more turns than are given. Each task has
at most three. -/
def settle (engine : Engine) (p : Plan) : Nat → RunState → RunState
  | 0, s => s
  | n + 1, s =>
      match advanceFirst engine p s with
      | some next => settle engine p n next
      | none => s

/-- Whether the tasks of all nodes of the plan are over. -/
def complete (p : Plan) (s : RunState) : Bool := p.order.all s.ended.contains

/-- The results when the run is cancelled now: nodes without a result are marked. -/
def cancelRest (p : Plan) (store : Store) : Store :=
  p.order.foldl
    (fun store id => if store.contains id then store else store.insert id .cancelled) store

end RunState

end BuildingWorkflow
