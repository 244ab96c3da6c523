import BuildingWorkflow.Run.Report

/-!
Runs in any order of turns.

A run is moved by turns of tasks and by clocks that run out. Whoever is asked may answer every time
as it likes, so a turn carries the collaborators as they behave then. A list of turns is one order
in which a run may go; the order of `Schedule` is another one.
-/
namespace BuildingWorkflow

/-- What moves a run. -/
inductive Turn
  /-- The task of a node goes on, and whoever it asks answers like this. -/
  | task (id : String) (help : Collaborators)
  /-- The time of an evaluation is up, though it might still be answered. -/
  | expiry (id : String)

namespace RunState

/-- The evaluation of a node is given up, if it goes on and there is a time for it. -/
def expire (engine : Engine) (p : Plan) (s : RunState) (id : String) : Option RunState :=
  match s.fault, engine.timeout, p.nodes.find? id, s.active.find? id with
  | none, some seconds, some node, some _ =>
      some (s.orFault (s.finish id (Engine.expired node.id seconds)))
  | _, _, _, _ => none

/-- The state after a turn, if the turn can be taken. -/
def take (engine : Engine) (p : Plan) (s : RunState) : Turn → Option RunState
  | .task id help => advance { engine with help := help } p s id
  | .expiry id => expire engine p s id

/-- The state after some turns, if they can be taken one after another. -/
def play (engine : Engine) (p : Plan) (s : RunState) : List Turn → Option RunState
  | [] => some s
  | turn :: rest => (s.take engine p turn).bind fun next => play engine p next rest

/-- Nothing can move, whatever anybody answers. -/
def AtRest (engine : Engine) (p : Plan) (s : RunState) : Prop :=
  ∀ turn, s.take engine p turn = none

/-- The reports of a run that has come to a state: its results when all tasks are over, and at any
time those of a run that is cancelled then. -/
inductive Reports (p : Plan) (s : RunState) : Report → Prop
  | finished : s.complete p → Reports p s (s.finished p)
  | stopped : Reports p s (s.stopped p)

end RunState

namespace Engine

/-- The turns of some tasks when the collaborators answer by the request alone. -/
def turns (engine : Engine) (ids : List String) : List Turn := ids.map (.task · engine.help)

end Engine

/-- Whoever is asked answers, if only by raising a fault. -/
structure Collaborators.Answering (help : Collaborators) : Prop where
  provider : ∀ name, help.provider name ≠ .silent
  writer : ∀ write ∈ help.writer, ∀ request, write request ≠ .silent

end BuildingWorkflow
