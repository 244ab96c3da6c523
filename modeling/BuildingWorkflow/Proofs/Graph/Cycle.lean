import BuildingWorkflow.Proofs.Graph.Acyclic
import Mathlib.Data.List.Chain
import Mathlib.Data.List.Permutation

/-!
The cycles that a search reports.

The open nodes make up a path on which each node was entered from the one before it and none occurs
twice. A step back to an open node closes the part of the path from there on. With that, a search
finds nothing just when there is no cycle, and what it finds is one.
-/
namespace BuildingWorkflow

/-- A way along steps back to its start that passes through no node twice. -/
structure ClosedPath (steps : String → String → Prop) (path : List String) : Prop where
  length : 2 ≤ path.length
  returns : path.head? = path.getLast?
  once : path.dropLast.Nodup
  along : path.IsChain steps

namespace ClosedPath

variable {steps steps' : String → String → Prop} {path : List String}

theorem close {start : String} {between : List String} (once : (start :: between).Nodup)
    (along : (start :: between).IsChain steps)
    (back : ∀ last ∈ (start :: between).getLast?, steps last start) :
    ClosedPath steps (start :: between ++ [start]) where
  length := by simp
  returns := by rw [List.getLast?_concat, List.cons_append, List.head?_cons]
  once := by rwa [List.dropLast_concat]
  along := by
    refine List.isChain_append.mpr ⟨along, .singleton start, fun last isLast first isFirst => ?_⟩
    rw [List.head?_singleton, Option.mem_some_iff] at isFirst
    exact isFirst ▸ back last isLast

theorem mono (h : ClosedPath steps path) (le : ∀ id below, steps id below → steps' id below) :
    ClosedPath steps' path :=
  { h with along := h.along.imp le }

theorem cyclic (h : ClosedPath steps path) : ∃ id, Relation.TransGen steps id id := by
  match path, h with
  | first :: second :: rest, h =>
      obtain ⟨step, along⟩ := List.isChain_cons_cons.mp h.along
      have back := List.relationReflTransGen_of_exists_isChain_cons rest along rfl
      have last : (second :: rest).getLast (List.cons_ne_nil second rest) = first := by
        have returns := h.returns
        rw [List.head?_cons, List.getLast?_cons_cons,
          List.getLast?_eq_some_getLast (List.cons_ne_nil second rest)] at returns
        exact (Option.some.inj returns).symm
      exact ⟨first, Relation.TransGen.head' step (last ▸ back)⟩
  | [_], h => exact absurd h.length (by simp)
  | [], h => exact absurd h.length (by simp)

end ClosedPath

namespace CycleSearch

variable {g : Digraph} {frame : Frame} {outer : List Frame} {id child : String} {rest : List String}

/-- Every open node was entered from the one outside of it, and only successors of it are still to
be looked at. -/
structure Entered (g : Digraph) (frames : List Frame) : Prop where
  once : (opened frames).Nodup
  steps : (opened frames).IsChain fun inner outer => inner ∈ g.next outer
  waiting : ∀ frame ∈ frames, frame.2 ⊆ g.next frame.1

namespace Entered

theorem start (g : Digraph) (id : String) : Entered g [(id, g.next id)] where
  once := List.nodup_singleton id
  steps := .singleton id
  waiting := List.forall_mem_singleton.mpr (List.Subset.refl _)

theorem leave (h : Entered g (frame :: outer)) : Entered g outer where
  once := (List.nodup_cons.mp h.once).2
  steps := h.steps.tail
  waiting := (List.forall_mem_cons.mp h.waiting).2

theorem skip (h : Entered g ((id, child :: rest) :: outer)) : Entered g ((id, rest) :: outer) where
  once := h.once
  steps := h.steps
  waiting := by
    obtain ⟨here, further⟩ := List.forall_mem_cons.mp h.waiting
    exact List.forall_mem_cons.mpr ⟨fun below member => here (.tail _ member), further⟩

theorem step (h : Entered g ((id, child :: rest) :: outer)) : child ∈ g.next id :=
  (List.forall_mem_cons.mp h.waiting).1 (.head _)

theorem enter (h : Entered g ((id, child :: rest) :: outer))
    (unopened : child ∉ opened ((id, rest) :: outer)) :
    Entered g ((child, g.next child) :: (id, rest) :: outer) where
  once := List.nodup_cons.mpr ⟨unopened, h.once⟩
  steps := List.isChain_cons_cons.mpr ⟨h.step, h.steps⟩
  waiting := List.forall_mem_cons.mpr ⟨List.Subset.refl _, h.skip.waiting⟩

end Entered

theorem dropWhile_bne_of_mem {name : String} {names : List String} (h : name ∈ names) :
    ∃ after, names.dropWhile (· != name) = name :: after := by
  induction names with
  | nil => cases h
  | cons first rest ih =>
      by_cases same : first = name
      · exact ⟨rest, by simp [same]⟩
      · have member : name ∈ rest := by simpa [Ne.symm same] using h
        rw [List.dropWhile_cons_of_pos (by simpa using same)]
        exact ih member

/-- A step from the innermost open node back to an open one closes a path. -/
theorem closedPath_closePath {frames : List Frame} (entered : Entered g frames)
    (isOpen : child ∈ opened frames) (back : ∀ inner ∈ (opened frames).head?, child ∈ g.next inner) :
    ClosedPath (fun id below => below ∈ g.next id) (closePath frames child) := by
  obtain ⟨after, dropped⟩ := dropWhile_bne_of_mem (List.mem_reverse.mpr isOpen)
  have suffix : child :: after <:+ (opened frames).reverse :=
    dropped ▸ List.dropWhile_suffix _
  rw [closePath, dropped]
  refine .close (suffix.sublist.nodup (List.nodup_reverse.mpr entered.once))
    ((List.isChain_reverse.mpr entered.steps).suffix suffix) fun last isLast => back last ?_
  obtain ⟨before, split⟩ := suffix
  rwa [← List.getLast?_reverse, ← split, List.getLast?_append_of_ne_nil _ (List.cons_ne_nil _ _)]

theorem explore_closed {fresh : List String} {frames : List Frame} {path : List String}
    (h : explore g fresh frames = .ok (.closed path)) (entered : Entered g frames) :
    ClosedPath (fun id below => below ∈ g.next id) path := by
  fun_induction explore g fresh frames with
  | case1 => cases h
  | case2 fresh id outer ih => exact ih h entered.leave
  | case3 fresh id child rest outer isOpen =>
      cases h
      refine closedPath_closePath entered.skip isOpen fun inner isInner => ?_
      rw [opened, List.map_cons, List.head?_cons, Option.mem_some_iff] at isInner
      exact isInner ▸ entered.step
  | case4 fresh id child rest outer unopened _ ih => exact ih h (entered.enter unopened)
  | case5 fresh id child rest outer _ _ _ ih => exact ih h entered.skip
  | case6 => cases h

theorem fromStarts_some {starts fresh path : List String}
    (h : fromStarts g fresh starts = .ok (some path)) :
    ClosedPath (fun id below => below ∈ g.next id) path := by
  induction starts generalizing fresh with
  | nil => cases h
  | cons start rest ih =>
      rw [fromStarts] at h
      split at h
      · cases found : explore g (fresh.erase start) [(start, g.next start)] with
        | error fault => rw [found] at h; cases h
        | ok ending =>
            rw [found] at h
            cases ending with
            | closed closing =>
                cases h
                exact explore_closed found (.start g start)
            | exhausted fresh' => exact ih h
      · exact ih h

end CycleSearch

namespace Digraph

theorem closedPath_of_findCycle {g : Digraph} {path : List String}
    (h : g.findCycle = .ok (some path)) :
    ClosedPath (fun id below => below ∈ g.next id) path :=
  CycleSearch.fromStarts_some h

theorem findCycle_eq_none_iff {g : Digraph} (nodup : g.nodes.Nodup) (closed : g.Closed) :
    g.findCycle = .ok none ↔ ∀ id, ¬ Relation.TransGen (fun id below => below ∈ g.next id) id id := by
  obtain ⟨found, searched⟩ := exists_findCycle closed
  constructor
  · intro none id cycle
    -- A cycle returns to a successor, so it lies among the nodes.
    obtain ⟨feeder, -, step⟩ := Relation.TransGen.tail'_iff.mp cycle
    exact (bounded_of_findCycle nodup none id (closed feeder step)).not_cyclic cycle
  · intro acyclic
    cases found with
    | none => exact searched
    | some path =>
        obtain ⟨id, cycle⟩ := (closedPath_of_findCycle searched).cyclic
        exact absurd cycle (acyclic id)

theorem closed_ofEdges {nodes : List String} {edges : List (String × String)}
    (inside : ∀ e ∈ edges, e.2 ∈ nodes) : (ofEdges nodes edges).Closed := by
  intro id below step
  rw [mem_next_ofEdges] at step
  exact (mem_nodes_ofEdges nodes edges below).mpr (inside _ step)

theorem nodup_nodes_ofEdges (nodes : List String) (edges : List (String × String)) :
    (ofEdges nodes edges).nodes.Nodup := nodup_eraseDups nodes

/-- A search through edges that join nodes never fails. It finds nothing just when the edges have no
cycle, and it finds a cycle otherwise. -/
theorem findCycle_ofEdges {nodes : List String} {edges : List (String × String)}
    (inside : ∀ e ∈ edges, e.1 ∈ nodes ∧ e.2 ∈ nodes) :
    ∃ found, (ofEdges nodes edges).findCycle = .ok found ∧
      (found = none ↔ ∀ id, ¬ Relation.TransGen (fun id below => (id, below) ∈ edges) id id) ∧
      ∀ path, found = some path → ClosedPath (fun id below => (id, below) ∈ edges) path := by
  have closed := closed_ofEdges fun e member => (inside e member).2
  obtain ⟨found, searched⟩ := exists_findCycle closed
  have none := findCycle_eq_none_iff (nodup_nodes_ofEdges nodes edges) closed
  simp only [mem_next_ofEdges] at none
  refine ⟨found, searched, ?_, fun path isPath => ?_⟩
  · rw [← none, searched, Except.ok.injEq]
  · subst isPath
    exact (closedPath_of_findCycle searched).mono fun id below step =>
      (mem_next_ofEdges nodes edges id below).mp step

/-- Of two nodes that feed each other, the search reports the smaller one as the start. -/
theorem findCycle_ofEdges_pair :
    (∀ e ∈ [("b", "a"), ("a", "b"), ("b", "a")], e.1 ∈ ["b", "a"] ∧ e.2 ∈ ["b", "a"]) ∧
      (ofEdges ["b", "a"] [("b", "a"), ("a", "b"), ("b", "a")]).findCycle =
        .ok (some ["a", "b", "a"]) ∧
      ClosedPath (fun id below => (id, below) ∈ [("b", "a"), ("a", "b"), ("b", "a")])
        ["a", "b", "a"] := by
  have inside : ∀ e ∈ [("b", "a"), ("a", "b"), ("b", "a")],
    e.1 ∈ ["b", "a"] ∧ e.2 ∈ ["b", "a"] := by decide
  have searched : (ofEdges ["b", "a"] [("b", "a"), ("a", "b"), ("b", "a")]).findCycle =
    .ok (some ["a", "b", "a"]) := by cbv
  obtain ⟨found, same, -, cycle⟩ := findCycle_ofEdges inside
  rw [searched, Except.ok.injEq] at same
  exact ⟨inside, searched, cycle _ same.symm⟩

end Digraph

end BuildingWorkflow
