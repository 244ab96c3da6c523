import BuildingWorkflow.Run.State

/-!
Schedules of runs.

When every evaluation is answered, the order of turns does not show in the results. When some are
not, their slots stay taken, and the order decides which nodes got a slot before the last one was
gone. A schedule is one such order: tasks take turns as they come due, first in the order of the
plan. A task waits for its predecessors one after another, and those that wait for one node go on in
the order in which they began to wait. Slots are given out in the order in which tasks asked for
them. Some evaluations end within the turn in which they begin; the others go on aside and end when
no turn is due, the one that began first before the others.
-/
namespace BuildingWorkflow

structure Schedule where
  state : RunState
  /-- The tasks whose turns are due, in order. -/
  due : List String
  /-- The tasks that wait for the task of a node, each with that node. -/
  waiting : List (String × String)
  /-- The queued tasks that are to take a slot with their next turn. -/
  promised : List String

namespace Engine

/-- Whether an evaluation ends within the turn in which it begins. -/
def atOnce (engine : Engine) (node : Node) (inputs : Inputs) : Bool :=
  !engine.timed && node.options.atOnce inputs engine.help

end Engine

namespace Schedule

def initial (p : Plan) : Schedule := ⟨.initial, p.order, [], []⟩

/-- A turn of the task of a node changes the state, if it can. -/
def advance (engine : Engine) (p : Plan) (s : Schedule) (id : String) : Schedule :=
  { s with state := (RunState.advance engine p s.state id).getD s.state }

/-- A slot that nobody has is promised to the task that has been queued longest. -/
def promise (engine : Engine) (s : Schedule) : Schedule :=
  if s.state.active.size + s.promised.length < engine.slots then
    match s.state.queued.keys.find? (!s.promised.contains ·) with
    | some id => { s with due := s.due ++ [id], promised := s.promised ++ [id] }
    | none => s
  else s

/-- The tasks that waited for a node are due. -/
def wake (s : Schedule) (id : String) : Schedule :=
  let (woken, waiting) := s.waiting.partition (·.2 == id)
  { s with due := s.due ++ woken.map Prod.fst, waiting := waiting }

/-- The end of an evaluation with a state after it: the slot goes on, and so do the tasks that
waited for the node. -/
def left (engine : Engine) (s : Schedule) (id : String) (state : RunState) : Schedule :=
  ({ s with state := state }.promise engine).wake id

/-- The end of an evaluation that is answered. -/
def leave (engine : Engine) (p : Plan) (s : Schedule) (id : String) : Schedule :=
  ((RunState.advance engine p s.state id).map (s.left engine id)).getD s

/-- A queued task takes its slot; an evaluation that ends at once gives it back. -/
def enter (engine : Engine) (p : Plan) (s : Schedule) (id : String) : Schedule :=
  let s := { s with promised := s.promised.erase id }.advance engine p id |>.promise engine
  match p.nodes.find? id, s.state.active.find? id with
  | some node, some inputs => if engine.atOnce node inputs then s.leave engine p id else s
  | _, _ => s

/-- All that a task waited for is over: its node is passed over, or queued. It takes a slot with
this turn when there is one and nobody else waits for one. -/
def prepare (engine : Engine) (p : Plan) (s : Schedule) (id : String) : Schedule :=
  let s := s.advance engine p id
  if s.state.ended.contains id then s.wake id
  else if s.state.queued.keys == [id] && s.state.active.size < engine.slots then
    s.enter engine p id
  else s

/-- The turn of a task that is due. -/
def turn (engine : Engine) (p : Plan) (s : Schedule) (id : String) : Schedule :=
  if s.promised.contains id then s.enter engine p id
  else match (p.predecessors id).find? (!s.state.ended.contains ·) with
  | some before => { s with waiting := s.waiting ++ [(id, before)] }
  | none => s.prepare engine p id

/-- The next step: the first turn that is due, or else the end of the evaluation that began first
among those that are answered. -/
def next? (engine : Engine) (p : Plan) (s : Schedule) : Option Schedule :=
  match s.due with
  | id :: due => some ({ s with due := due }.turn engine p id)
  | [] => s.state.active.keys.findSome? fun id =>
      (RunState.advance engine p s.state id).map (s.left engine id)

/-- Step after step, but no more steps than are given. -/
def go (engine : Engine) (p : Plan) : Nat → Schedule → Schedule
  | 0, s => s
  | n + 1, s =>
      match s.next? engine p with
      | some s => go engine p n s
      | none => s

/-- A bound of the steps: a task has a first turn, one for each predecessor that it waited for, one
with its slot, and the end of its evaluation. -/
def bound (p : Plan) : Nat := 3 * p.order.length + p.edges.length

/-- The state in which no task can do anything any more. A schedule leaves nothing to do; to go on
in the order of the plan until nothing moves makes that plain. -/
def settled (engine : Engine) (p : Plan) : RunState :=
  RunState.settle engine p (3 * p.order.length) (go engine p (bound p) (initial p)).state

end Schedule

end BuildingWorkflow
