import BuildingWorkflow.Proofs.Graph.Cycle
import Mathlib.Data.Finset.Card
import Mathlib.Data.List.Sort

/-!
The cycle that is reported, told by a recursion.

Depth first, the search of a node goes through its successors and searches each of them to the end
before the next one. The list of open nodes with their waiting successors stands for the calls of
this recursion that have not returned. The recursion is told the nodes and the successors in
ascending order and nothing else, so the order in which nodes and edges are given has no part in the
cycle, and neither has an edge that is given twice.
-/
namespace BuildingWorkflow

namespace DepthFirst

/-- What the search of a node comes to: the cycle that the first step back closes, or the nodes that
it left unentered. -/
inductive Descent (fresh : Finset String)
  | closed (cycle : List String)
  | exhausted (left : Finset String) (fewer : left ⊆ fresh)

def Descent.widen {fresh fresh' : Finset String} (le : fresh ⊆ fresh') :
    Descent fresh → Descent fresh'
  | .closed cycle => .closed cycle
  | .exhausted left fewer => .exhausted left (fewer.trans le)

/-- The search of the node that a path leads to, through those of its successors that are left. A
step back to a node on the path closes a cycle; a node that was not entered before is searched, and
any other is passed over. -/
def descend (next : String → List String) (path : List String) (fresh : Finset String) :
    List String → Descent fresh
  | [] => .exhausted fresh (Finset.Subset.refl fresh)
  | child :: rest =>
      if child ∈ path then .closed (path.drop (path.idxOf child) ++ [child])
      else if _ : child ∈ fresh then
        match descend next (path ++ [child]) (fresh.erase child) (next child) with
        | .closed cycle => .closed cycle
        | .exhausted left fewer =>
            (descend next path left rest).widen (fewer.trans (Finset.erase_subset child fresh))
      else descend next path fresh rest
termination_by successors => (fresh.card, successors.length)
decreasing_by
  · exact Prod.Lex.left _ _ (Finset.card_erase_lt_of_mem ‹_›)
  · exact Prod.Lex.left _ _
      ((Finset.card_le_card fewer).trans_lt (Finset.card_erase_lt_of_mem ‹_›))
  · exact Prod.Lex.right _ (Nat.lt_succ_self rest.length)

/-- The search from each of some starts that was not entered before. -/
def search (next : String → List String) (fresh : Finset String) :
    List String → Option (List String)
  | [] => none
  | start :: rest =>
      if start ∈ fresh then
        match descend next [start] (fresh.erase start) (next start) with
        | .closed cycle => some cycle
        | .exhausted left _ => search next left rest
      else search next fresh rest

/-- The first cycle of a graph with some nodes and successors, in the order in which they are
listed. -/
def firstCycle (nodes : List String) (next : String → List String) : Option (List String) :=
  search next nodes.toFinset nodes

end DepthFirst

namespace CycleSearch

open DepthFirst

theorem toFinset_erase {fresh : List String} (nodup : fresh.Nodup) (id : String) :
    (fresh.erase id).toFinset = fresh.toFinset.erase id := by
  ext other
  simp only [List.mem_toFinset, Finset.mem_erase, nodup.mem_erase_iff]

/-- The path to an open node, from the start on. -/
def trail (id : String) (outer : List Frame) : List String := (id :: opened outer).reverse

section Explore

variable (g : Digraph) (fresh : List String) (id child : String) (rest : List String)
  (outer : List Frame)

theorem trail_enter : trail child ((id, rest) :: outer) = trail id outer ++ [child] :=
  List.reverse_cons

theorem closePath_eq : closePath ((id, rest) :: outer) child =
    (trail id outer).drop ((trail id outer).idxOf child) ++ [child] := by
  change (trail id outer).dropWhile (· != child) ++ [child] = _
  rw [List.dropWhile_eq_drop_findIdx_not, List.idxOf]
  simp only [bne, Bool.not_not]

theorem explore_nil : explore g fresh ((id, []) :: outer) = explore g fresh outer := by
  rw [explore]

variable {g child} in
theorem explore_cons (known : child ∈ g.nodes) :
    explore g fresh ((id, child :: rest) :: outer) =
      if child ∈ trail id outer then
        .ok (.closed ((trail id outer).drop ((trail id outer).idxOf child) ++ [child]))
      else if child ∈ fresh then
        explore g (fresh.erase child) ((child, g.next child) :: (id, rest) :: outer)
      else explore g fresh ((id, rest) :: outer) := by
  have isOpen : child ∈ opened ((id, rest) :: outer) ↔ child ∈ trail id outer :=
    List.mem_reverse.symm
  rw [explore, closePath_eq, if_pos known]
  simp only [isOpen]

end Explore

/-- What a search with open nodes comes to, by what the innermost of them comes to: the cycle that it
closes, or what the search comes to from the nodes outside of it on. -/
def ComesTo (g : Digraph) (fresh : List String) (frame : Frame) (outer : List Frame)
    {start : Finset String} : Descent start → Prop
  | .closed cycle => explore g fresh (frame :: outer) = .ok (.closed cycle)
  | .exhausted left _ => ∃ fresh', fresh'.Nodup ∧ fresh'.toFinset = left ∧
      explore g fresh (frame :: outer) = explore g fresh' outer

theorem ComesTo.widen {g : Digraph} {fresh : List String} {frame : Frame} {outer : List Frame}
    {start start' : Finset String} (le : start ⊆ start') {descent : Descent start}
    (h : ComesTo g fresh frame outer descent) : ComesTo g fresh frame outer (descent.widen le) := by
  cases descent <;> exact h

/-- Where the search goes on elsewhere, it comes to what it comes to there. -/
theorem ComesTo.of_eq {g : Digraph} {fresh fresh' : List String} {frame frame' : Frame}
    {outer : List Frame} {start : Finset String} {descent : Descent start}
    (same : explore g fresh (frame :: outer) = explore g fresh' (frame' :: outer))
    (h : ComesTo g fresh' frame' outer descent) : ComesTo g fresh frame outer descent := by
  cases descent with
  | closed cycle => exact same.trans h
  | exhausted left fewer =>
      obtain ⟨later, nodup, remaining, further⟩ := h
      exact ⟨later, nodup, remaining, same.trans further⟩

/-- An open node is dealt with as the recursion deals with it, and then the nodes outside of it. -/
theorem comesTo_descend {g : Digraph} (closed : g.Closed) {fresh : List String}
    (nodup : fresh.Nodup) {id : String} {successors : List String} (inside : successors ⊆ g.nodes)
    (outer : List Frame) : ComesTo g fresh (id, successors) outer
      (descend g.next (trail id outer) fresh.toFinset successors) := by
  generalize way : trail id outer = path
  generalize unentered : fresh.toFinset = start
  induction path, start, successors using descend.induct g.next generalizing fresh id outer with
  | case1 path start =>
      rw [descend]
      exact ⟨fresh, nodup, unentered, explore_nil g fresh id outer⟩
  | case2 path start child rest back =>
      obtain ⟨known, further⟩ := List.cons_subset.mp inside
      rw [descend, if_pos back]
      change explore _ _ _ = _
      rw [explore_cons fresh id rest outer known, way, if_pos back]
  | case3 path start child rest unopened entered cycle below ih =>
      obtain ⟨known, further⟩ := List.cons_subset.mp inside
      have searched := ih (nodup.erase child) (closed child) ((id, rest) :: outer)
        (way ▸ trail_enter id child rest outer) (unentered ▸ toFinset_erase nodup child)
      subst unentered
      rw [below] at searched
      rw [descend, if_neg unopened, dif_pos entered, below]
      change explore _ _ _ = _
      rw [explore_cons fresh id rest outer known, way, if_neg unopened,
        if_pos (List.mem_toFinset.mp entered)]
      exact searched
  | case4 path start child rest unopened entered left fewer below ih ih' =>
      obtain ⟨known, further⟩ := List.cons_subset.mp inside
      have searched := ih (nodup.erase child) (closed child) ((id, rest) :: outer)
        (way ▸ trail_enter id child rest outer) (unentered ▸ toFinset_erase nodup child)
      subst unentered
      rw [below] at searched
      obtain ⟨fresh', nodup', remaining, resumed⟩ := searched
      rw [descend, if_neg unopened, dif_pos entered, below]
      refine ComesTo.widen _ ((ih' nodup' further outer way remaining).of_eq ?_)
      rw [explore_cons fresh id rest outer known, way, if_neg unopened,
        if_pos (List.mem_toFinset.mp entered)]
      exact resumed
  | case5 path start child rest unopened left ih =>
      obtain ⟨known, further⟩ := List.cons_subset.mp inside
      subst unentered
      rw [descend, if_neg unopened, dif_neg left]
      refine (ih nodup further outer way rfl).of_eq ?_
      rw [explore_cons fresh id rest outer known, way, if_neg unopened,
        if_neg fun entered => left (List.mem_toFinset.mpr entered)]

/-- The searches from one start after another are those of the recursion. -/
theorem fromStarts_eq {g : Digraph} (closed : g.Closed) {fresh : List String}
    (nodup : fresh.Nodup) (starts : List String) :
    fromStarts g fresh starts = .ok (search g.next fresh.toFinset starts) := by
  induction starts generalizing fresh with
  | nil => rfl
  | cons start rest ih =>
      rw [fromStarts, search]
      by_cases entered : start ∈ fresh
      · have searched : ComesTo g (fresh.erase start) (start, g.next start) []
            (descend g.next [start] (fresh.erase start).toFinset (g.next start)) :=
          comesTo_descend closed (nodup.erase start) (closed start) []
        rw [toFinset_erase nodup] at searched
        rw [if_pos (List.contains_iff_mem.mpr entered), if_pos (List.mem_toFinset.mpr entered)]
        cases below : descend g.next [start] (fresh.toFinset.erase start) (g.next start) with
        | closed cycle =>
            rw [below] at searched
            change explore _ _ _ = _ at searched
            rw [searched]
            rfl
        | exhausted left fewer =>
            rw [below] at searched
            obtain ⟨fresh', nodup', rfl, ended⟩ := searched
            rw [ended, explore]
            exact ih nodup'
      · rw [if_neg (by simpa using entered), if_neg (by simpa using entered)]
        exact ih nodup

end CycleSearch

/-! ## Names in ascending order -/

/-- Names in ascending order, each once: those that have a property. -/
structure Ascending (names : List String) (listed : String → Prop) : Prop where
  order : names.Pairwise (· < ·)
  mem : ∀ name, name ∈ names ↔ listed name

theorem ascending_sortedNames {names : List String} {listed : String → Prop}
    (mem : ∀ name, name ∈ names ↔ listed name) : Ascending (sortedNames names) listed where
  order := ((pairwise_sortedNames names).and (nodup_sortedNames names)).imp fun both =>
    lt_of_le_of_ne both.1 both.2
  mem name := (mem_sortedNames names name).trans (mem name)

theorem Ascending.eq {names names' : List String} {listed : String → Prop}
    (h : Ascending names listed) (h' : Ascending names' listed) : names = names' :=
  h.order.eq_of_mem_iff h'.order fun name => (h.mem name).trans (h'.mem name).symm

namespace Digraph

/-- The search of a graph is the recursion on its nodes and their successors in ascending order. -/
theorem findCycle_eq_firstCycle {nodes : List String} {edges : List (String × String)}
    (inside : ∀ e ∈ edges, e.2 ∈ nodes) {starts : List String} {next : String → List String}
    (ascending : Ascending starts (· ∈ nodes))
    (ascend : ∀ id, Ascending (next id) fun below => (id, below) ∈ edges) :
    (ofEdges nodes edges).findCycle = .ok (DepthFirst.firstCycle starts next) := by
  have successors : (ofEdges nodes edges).next = next := by
    funext id
    exact (ascending_sortedNames fun below => by simp).eq (ascend id)
  have ordered : sortedNames (ofEdges nodes edges).nodes = starts :=
    (ascending_sortedNames fun id => mem_nodes_ofEdges nodes edges id).eq ascending
  have unentered : (ofEdges nodes edges).nodes.toFinset = starts.toFinset := by
    ext id
    rw [List.mem_toFinset, List.mem_toFinset, ascending.mem, mem_nodes_ofEdges]
  rw [findCycle,
    CycleSearch.fromStarts_eq (closed_ofEdges inside) (nodup_nodes_ofEdges nodes edges),
    successors, ordered, unentered, DepthFirst.firstCycle]

/-- The cycle that is reported depends on which nodes and edges there are, and not on how they are
listed: it is the one that a recursive search closes first, depth first and in ascending order. -/
theorem findCycle_canonical {nodes : List String} {edges : List (String × String)}
    (inside : ∀ e ∈ edges, e.1 ∈ nodes ∧ e.2 ∈ nodes) :
    (∀ {nodes' : List String} {edges' : List (String × String)},
      (∀ id, id ∈ nodes' ↔ id ∈ nodes) → (∀ e, e ∈ edges' ↔ e ∈ edges) →
      (ofEdges nodes' edges').findCycle = (ofEdges nodes edges).findCycle) ∧
    ∀ {starts : List String} {next : String → List String}, Ascending starts (· ∈ nodes) →
      (∀ id, Ascending (next id) fun below => (id, below) ∈ edges) →
      (ofEdges nodes edges).findCycle = .ok (DepthFirst.firstCycle starts next) := by
  have reported := @findCycle_eq_firstCycle nodes edges fun e member => (inside e member).2
  refine ⟨fun {nodes' edges'} sameNodes sameEdges => ?_, reported⟩
  have ascending : Ascending (sortedNames nodes) (· ∈ nodes) := ascending_sortedNames fun _ => .rfl
  have ascend (id : String) : Ascending ((ofEdges nodes edges).next id)
      fun below => (id, below) ∈ edges := ascending_sortedNames fun below => by simp
  rw [reported ascending ascend]
  have ascending' : Ascending (sortedNames nodes) (· ∈ nodes') :=
    ⟨ascending.order, fun id => (ascending.mem id).trans (sameNodes id).symm⟩
  have ascend' (id : String) : Ascending ((ofEdges nodes edges).next id)
      fun below => (id, below) ∈ edges' :=
    ⟨(ascend id).order, fun below => ((ascend id).mem below).trans (sameEdges _).symm⟩
  have inside' : ∀ e ∈ edges', e.2 ∈ nodes' := fun e member =>
    (sameNodes e.2).mpr (inside e ((sameEdges e).mp member)).2
  exact findCycle_eq_firstCycle inside' ascending' ascend'

/-- Two cycles through one node: the one through the smaller successor is reported, though that
comes last and twice. -/
theorem findCycle_canonical_forked :
    let nodes := ["c", "b", "a"]
    let edges := [("b", "c"), ("c", "b"), ("b", "a"), ("a", "b"), ("b", "a")]
    let next := fun id => if id = "b" then ["a", "c"] else if id = "a" ∨ id = "c" then ["b"] else []
    (∀ e ∈ edges, e.1 ∈ nodes ∧ e.2 ∈ nodes) ∧
      (ofEdges nodes edges).findCycle = .ok (some ["a", "b", "a"]) ∧
      (ofEdges ["a", "b", "c"] [("a", "b"), ("b", "a"), ("b", "c"), ("c", "b")]).findCycle =
        .ok (some ["a", "b", "a"]) ∧
      DepthFirst.firstCycle ["a", "b", "c"] next = some ["a", "b", "a"] := by
  intro nodes edges next
  have inside : ∀ e ∈ edges, e.1 ∈ nodes ∧ e.2 ∈ nodes := by decide
  have sameNodes : ∀ id, id ∈ ["a", "b", "c"] ↔ id ∈ nodes := by
    intro id
    simp only [nodes, List.mem_cons, List.not_mem_nil, or_false]
    tauto
  have sameEdges : ∀ e, e ∈ [("a", "b"), ("b", "a"), ("b", "c"), ("c", "b")] ↔ e ∈ edges := by
    intro e
    simp only [edges, List.mem_cons, List.not_mem_nil, or_false]
    tauto
  have ascending : Ascending ["a", "b", "c"] (· ∈ nodes) := ⟨by decide, sameNodes⟩
  have ascend : ∀ id, Ascending (next id) fun below => (id, below) ∈ edges := by
    intro id
    refine ⟨?_, fun below => ?_⟩
    · simp only [next]
      split_ifs <;> decide
    · simp only [next, edges, List.mem_cons, List.not_mem_nil, or_false, Prod.mk.injEq]
      split_ifs <;> simp <;> grind
  have found : (ofEdges nodes edges).findCycle = .ok (some ["a", "b", "a"]) := by cbv
  obtain ⟨alike, reported⟩ := findCycle_canonical inside
  have told := reported ascending ascend
  rw [found, Except.ok.injEq] at told
  exact ⟨inside, found, (alike sameNodes sameEdges).trans found, told.symm⟩

end Digraph

end BuildingWorkflow
