import BuildingWorkflow.Graph.Validation
import BuildingWorkflow.Node.Inputs
import BuildingWorkflow.Run.Store

/-!
Plans: in which order the nodes of a graph run, which nodes each one waits for, and what feeds it.
-/
namespace BuildingWorkflow

/-- Whether all nodes that feed a node are placed already. -/
def isReady (edges : List Edge) (remaining : List String) (id : String) : Bool :=
  edges.all fun e => e.target != id || !remaining.contains e.source

/-- Places the least ready node again and again. Without a ready node nothing more is placed. -/
def placeAll (edges : List Edge) : Nat → List String → List String
  | 0, _ => []
  | n + 1, remaining =>
      match leastName? (remaining.filter (isReady edges remaining)) with
      | none => []
      | some id => id :: placeAll edges n (remaining.erase id)

structure Plan where
  workflow : Workflow
  /-- The nodes in the order of the edges, smaller identifiers first where the edges leave open
  which one comes first. -/
  order : List String

namespace Workflow

def order (w : Workflow) : List String := placeAll w.edges w.nodes.size w.nodes.keys

def plan (w : Workflow) : Plan := ⟨w, w.order⟩

end Workflow

namespace Plan

def nodes (p : Plan) : OrderedMap Node := p.workflow.nodes

def edges (p : Plan) : List Edge := p.workflow.edges

/-- The nodes that feed a node, in order and each once. -/
def predecessors (p : Plan) (id : String) : List String :=
  sortedNames ((p.edges.filter (·.target == id)).map Edge.source)

/-- Whether a node is fed by a given one or by one of some others. -/
def fedFrom (p : Plan) (id : String) (others : List String) (node : String) : Bool :=
  p.edges.any fun e => e.target == node && (e.source == id || others.contains e.source)

/-- The nodes that depend on a node, directly or through others. -/
def downstream (p : Plan) (id : String) : List String :=
  p.order.foldl (fun found node => if p.fedFrom id found node then found ++ [node] else found) []

/-- The edges into some nodes, by source; those of one source as they were submitted. -/
def incoming (p : Plan) (targets : List String) : List Edge :=
  (p.edges.filter fun e => targets.contains e.target).mergeSort fun e e' => e.source ≤ e'.source

/-- Gathers the results of the sources of some edges by the inlets that the edges lead into. -/
def gather (store : Store) (inputs : Inputs) : List Edge → Except Fault Inputs
  | [] => .ok inputs
  | e :: rest =>
      match store.find? e.source with
      | none => .error (.missingKey s!"No result for upstream node '{e.source}'")
      | some result => gather store (inputs.update e.inlet [] (· ++ [result])) rest

/-- What feeds a node; every predecessor must have a result. -/
def inputsFor (p : Plan) (id : String) (store : Store) : Except Fault Inputs :=
  gather store .empty (p.incoming [id])

/-- The nodes that a name stands for: the node of that name, or else the nodes named by one letter
of it. -/
def named (p : Plan) (name : String) : List String :=
  if p.nodes.contains name then [name]
  else p.nodes.keys.filter fun id => name.toList.any fun c => id == String.singleton c

/-- What feeds the nodes that a name stands for. -/
def inputsNamed (p : Plan) (name : String) (store : Store) : Except Fault Inputs :=
  gather store .empty (p.incoming (p.named name))

end Plan

end BuildingWorkflow
