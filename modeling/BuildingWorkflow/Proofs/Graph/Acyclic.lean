import BuildingWorkflow.Graph.Cycle
import BuildingWorkflow.Proofs.Text.Names
import Mathlib.Logic.Relation

/-!
A search that finds no cycle shows that there is none.

A node that the search has left is bounded: no path from it goes on for ever. Such a node lies on no
cycle. That a path which the search reports is a cycle is another matter. The search has no fault in
a graph whose edges lead to nodes.
-/
namespace BuildingWorkflow

/-- The successors of nodes are nodes. -/
def Digraph.Closed (g : Digraph) : Prop := ∀ id, g.next id ⊆ g.nodes

/-- No path from the node goes on for ever. -/
def Digraph.Bounded (g : Digraph) : String → Prop := Acc fun below id => below ∈ g.next id

theorem Digraph.mem_next_ofEdges (nodes : List String) (edges : List (String × String))
    (id below : String) :
    below ∈ (Digraph.ofEdges nodes edges).next id ↔ (id, below) ∈ edges := by
  simp [Digraph.ofEdges]

theorem Digraph.mem_nodes_ofEdges (nodes : List String) (edges : List (String × String))
    (id : String) : id ∈ (Digraph.ofEdges nodes edges).nodes ↔ id ∈ nodes := by
  simp [Digraph.ofEdges]

theorem Digraph.Bounded.not_cyclic {g : Digraph} {id : String} (h : g.Bounded id) :
    ¬ Relation.TransGen (fun id below => below ∈ g.next id) id id := by
  induction h with
  | intro id _ ih =>
      intro cycle
      obtain ⟨below, step, back⟩ := Relation.TransGen.head'_iff.mp cycle
      exact ih below step (Relation.TransGen.tail' back step)

namespace CycleSearch

variable {g : Digraph}

/-- Every successor of an open node is still to be looked at, bounded, or the open node that was
entered from it. -/
def Examined (g : Digraph) : Option String → List Frame → Prop
  | _, [] => True
  | inner, (id, rest) :: outer =>
      (∀ below ∈ g.next id, below ∈ rest ∨ g.Bounded below ∨ inner = some below) ∧
        Examined g (some id) outer

theorem Examined.leave {id : String} {frames : List Frame} (bounded : g.Bounded id)
    (h : Examined g (some id) frames) : Examined g none frames := by
  cases frames with
  | nil => trivial
  | cons frame outer =>
      refine ⟨fun below step => ?_, h.2⟩
      obtain waiting | left | entered := h.1 below step
      · exact .inl waiting
      · exact .inr (.inl left)
      · rw [Option.some.injEq] at entered
        exact .inr (.inl (entered ▸ bounded))

/-- What is neither fresh nor open was left, and is bounded. -/
def LeftBounded (g : Digraph) (fresh : List String) (frames : List Frame) : Prop :=
  ∀ id ∈ g.nodes, id ∈ fresh ∨ id ∈ opened frames ∨ g.Bounded id

theorem LeftBounded.enter {fresh : List String} {frames : List Frame}
    (left : LeftBounded g fresh frames) (start : String) (rest : List String) :
    LeftBounded g (fresh.erase start) ((start, rest) :: frames) := by
  intro id known
  obtain isFresh | isOpen | bounded := left id known
  · by_cases same : id = start
    · exact .inr (.inl (same ▸ List.mem_cons_self))
    · exact .inl ((List.mem_erase_of_ne same).mpr isFresh)
  · exact .inr (.inl (List.mem_cons_of_mem _ isOpen))
  · exact .inr (.inr bounded)

theorem LeftBounded.bounded {fresh : List String} (left : LeftBounded g fresh []) {id : String}
    (known : id ∈ g.nodes) (entered : id ∉ fresh) : g.Bounded id := by
  obtain isFresh | isOpen | bounded := left id known
  · exact absurd isFresh entered
  · cases isOpen
  · exact bounded

theorem explore_exhausted {fresh : List String} {frames : List Frame} {rest : List String}
    (h : explore g fresh frames = .ok (.exhausted rest)) (examined : Examined g none frames)
    (left : LeftBounded g fresh frames) :
    rest.Sublist fresh ∧ LeftBounded g rest [] := by
  fun_induction explore g fresh frames with
  | case1 fresh =>
      rw [Except.ok.injEq, Ending.exhausted.injEq] at h
      subst h
      exact ⟨List.Sublist.refl _, left⟩
  | case2 fresh id outer ih =>
      -- Nothing below the node is still to be looked at, so the node is bounded when it is left.
      have bounded : g.Bounded id := by
        refine ⟨_, fun below step => ?_⟩
        obtain waiting | left | entered := examined.1 below step
        · cases waiting
        · exact left
        · cases entered
      refine ih h (examined.2.leave bounded) fun other member => ?_
      obtain fresh | opened | left := left other member
      · exact .inl fresh
      · obtain rfl | opened := List.mem_cons.mp opened
        · exact .inr (.inr bounded)
        · exact .inr (.inl opened)
      · exact .inr (.inr left)
  | case3 => cases h
  | case4 fresh id child rest' outer unopened entered ih =>
      have examined' : Examined g none ((child, g.next child) :: (id, rest') :: outer) := by
        refine ⟨fun below step => .inl step, fun below step => ?_, examined.2⟩
        obtain waiting | left | entered := examined.1 below step
        · obtain rfl | waiting := List.mem_cons.mp waiting
          · exact .inr (.inr rfl)
          · exact .inl waiting
        · exact .inr (.inl left)
        · cases entered
      have left' : LeftBounded g fresh ((id, rest') :: outer) := left
      obtain ⟨sublist, bounded⟩ := ih h examined' (left'.enter child (g.next child))
      exact ⟨sublist.trans List.erase_sublist, bounded⟩
  | case5 fresh id child rest' outer unopened notFresh known ih =>
      -- Neither fresh nor open, the child was left before.
      have bounded : g.Bounded child := by
        obtain fresh | opened | left := left child known
        · exact absurd fresh notFresh
        · exact absurd opened unopened
        · exact left
      refine ih h ⟨fun below step => ?_, examined.2⟩ left
      obtain waiting | left | entered := examined.1 below step
      · obtain rfl | waiting := List.mem_cons.mp waiting
        · exact .inr (.inl bounded)
        · exact .inl waiting
      · exact .inr (.inl left)
      · cases entered
  | case6 => cases h

/-- A start that no cycle can be reached from is left behind. -/
theorem fromStarts_none {starts fresh : List String}
    (h : fromStarts g fresh starts = .ok none) (nodup : fresh.Nodup)
    (left : LeftBounded g fresh []) :
    ∀ id ∈ starts, id ∈ g.nodes → g.Bounded id := by
  induction starts generalizing fresh with
  | nil => intro id member; cases member
  | cons start rest ih =>
      simp only [fromStarts] at h
      by_cases entered : start ∈ fresh
      · rw [if_pos (List.contains_iff_mem.mpr entered)] at h
        cases found : explore g (fresh.erase start) [(start, g.next start)] with
        | error fault => rw [found] at h; cases h
        | ok ending =>
            cases ending with
            | closed path => rw [found] at h; cases h
            | exhausted fresh' =>
                rw [found] at h
                obtain ⟨sublist, left'⟩ := explore_exhausted found
                  ⟨fun below step => .inl step, trivial⟩ (left.enter start (g.next start))
                have nodup' : fresh'.Nodup := sublist.nodup (nodup.erase start)
                intro id member known
                obtain rfl | member := List.mem_cons.mp member
                · exact left'.bounded known fun isFresh =>
                    nodup.not_mem_erase (sublist.subset isFresh)
                · exact ih h nodup' left' id member known
      · rw [if_neg (by simpa using entered)] at h
        intro id member known
        obtain rfl | member := List.mem_cons.mp member
        · exact left.bounded known entered
        · exact ih h nodup left id member known

theorem exists_explore (closed : g.Closed) (fresh : List String) (frames : List Frame)
    (inside : ∀ frame ∈ frames, frame.2 ⊆ g.nodes) :
    ∃ ending, explore g fresh frames = .ok ending := by
  fun_induction explore g fresh frames with
  | case1 fresh => exact ⟨_, rfl⟩
  | case2 fresh id outer ih => exact ih fun frame member => inside frame (.tail _ member)
  | case3 => exact ⟨_, rfl⟩
  | case4 fresh id child rest outer unopened entered ih =>
      obtain ⟨here, further⟩ := List.forall_mem_cons.mp inside
      refine ih (List.forall_mem_cons.mpr ⟨closed child, List.forall_mem_cons.mpr ⟨?_, further⟩⟩)
      exact fun below member => here (.tail _ member)
  | case5 fresh id child rest outer unopened left known ih =>
      obtain ⟨here, further⟩ := List.forall_mem_cons.mp inside
      exact ih (List.forall_mem_cons.mpr ⟨fun below member => here (.tail _ member), further⟩)
  | case6 fresh id child rest outer unopened left unknown =>
      exact absurd (inside (id, child :: rest) (.head _) (.head _)) unknown

theorem exists_fromStarts (closed : g.Closed) (fresh starts : List String) :
    ∃ found, fromStarts g fresh starts = .ok found := by
  induction starts generalizing fresh with
  | nil => exact ⟨none, rfl⟩
  | cons start rest ih =>
      simp only [fromStarts]
      split
      · obtain ⟨ending, explored⟩ := exists_explore closed (fresh.erase start)
          [(start, g.next start)] (List.forall_mem_singleton.mpr (closed start))
        rw [explored]
        cases ending with
        | closed path => exact ⟨some path, rfl⟩
        | exhausted fresh' => exact ih fresh'
      · exact ih fresh

end CycleSearch

theorem Digraph.exists_findCycle {g : Digraph} (closed : g.Closed) :
    ∃ found, g.findCycle = .ok found :=
  CycleSearch.exists_fromStarts closed g.nodes _

/-- Where no cycle is found, no path goes on for ever. -/
theorem Digraph.bounded_of_findCycle {g : Digraph} (nodup : g.nodes.Nodup)
    (h : g.findCycle = .ok none) : ∀ id ∈ g.nodes, g.Bounded id := by
  intro id member
  exact CycleSearch.fromStarts_none h nodup (fun id known => .inl known) id
    ((mem_sortedNames _ _).mpr member) member

end BuildingWorkflow
