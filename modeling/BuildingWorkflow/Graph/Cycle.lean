import BuildingWorkflow.Fault
import BuildingWorkflow.Text.Sorted

/-!
Search for a cycle.

A depth-first search visits start nodes and successors in ascending order. Open nodes lie on the
path from the start; an edge to an open node closes a cycle. A node that is left without one is
never entered again.
-/
namespace BuildingWorkflow

/-- A directed graph as a search sees it: its nodes, and the successors of each in ascending
order. -/
structure Digraph where
  nodes : List String
  next : String → List String

/-- The graph of some nodes and edges. -/
def Digraph.ofEdges (nodes : List String) (edges : List (String × String)) : Digraph where
  nodes := nodes.eraseDups
  next id := sortedNames ((edges.filter (·.1 == id)).map Prod.snd)

namespace CycleSearch

/-- An open node with the successors that are still to be looked at. -/
abbrev Frame := String × List String

/-- How a search from one start ends. -/
inductive Ending
  /-- A cycle, the first and the last node being the same. -/
  | closed (path : List String)
  /-- No cycle can be reached from the start; the nodes that were not entered remain. -/
  | exhausted (fresh : List String)

/-- The open nodes, the innermost first. -/
def opened (frames : List Frame) : List String := frames.map Prod.fst

/-- The part of the path from an open node on, closed by that node. -/
def closePath (frames : List Frame) (id : String) : List String :=
  (opened frames).reverse.dropWhile (· != id) ++ [id]

/-- How many successors and frames are still to be dealt with. -/
def workload : List Frame → Nat
  | [] => 0
  | frame :: outer => frame.2.length + 1 + workload outer

/-- The search with some open nodes, the innermost first, and the nodes not entered yet. -/
def explore (g : Digraph) (fresh : List String) (frames : List Frame) : Except Fault Ending :=
  match frames with
  | [] => .ok (.exhausted fresh)
  | (_, []) :: outer => explore g fresh outer
  | (id, child :: rest) :: outer =>
      if child ∈ opened ((id, rest) :: outer) then
        .ok (.closed (closePath ((id, rest) :: outer) child))
      else if child ∈ fresh then
        explore g (fresh.erase child) ((child, g.next child) :: (id, rest) :: outer)
      else if child ∈ g.nodes then explore g fresh ((id, rest) :: outer)
      else .error (.missingKey child)
termination_by (fresh.length, workload frames)
decreasing_by
  · exact Prod.Lex.right _ (by simp [workload])
  · rename_i h
    exact Prod.Lex.left _ _ (by
      have := List.length_pos_of_mem h
      rw [List.length_erase_of_mem h]
      omega)
  · exact Prod.Lex.right _ (by simp [workload])

/-- The search from each start that was not entered before. -/
def fromStarts (g : Digraph) (fresh : List String) :
    List String → Except Fault (Option (List String))
  | [] => .ok none
  | start :: rest =>
      if fresh.contains start then do
        match ← explore g (fresh.erase start) [(start, g.next start)] with
        | .closed path => return some path
        | .exhausted fresh => fromStarts g fresh rest
      else fromStarts g fresh rest

end CycleSearch

/-- The first cycle of a graph in the order of the search. An edge out of the graph is a fault. -/
def Digraph.findCycle (g : Digraph) : Except Fault (Option (List String)) :=
  CycleSearch.fromStarts g g.nodes (sortedNames g.nodes)

end BuildingWorkflow
