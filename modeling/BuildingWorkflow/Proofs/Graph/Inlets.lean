import BuildingWorkflow.Proofs.Graph.Feeding

/-!
What feeds each inlet.

Edges into a node are sorted by source, and those of one source stay as they were submitted. At one
inlet the latter does not show, as edges from one source bring the same result: an inlet gets the
results of its sources in the order of their names, one for each edge.
-/
namespace BuildingWorkflow
namespace Plan

/-- The sources of the edges into an inlet, in order and one for each edge. -/
def sourcesAt (p : Plan) (id inlet : String) : List String :=
  ((p.edges.filter fun e => e.target == id && e.inlet == inlet).map Edge.source).mergeSort

variable {p p' : Plan} {id inlet : String}

theorem pairwise_sourcesAt (p : Plan) (id inlet : String) :
    (p.sourcesAt id inlet).Pairwise (· ≤ ·) := pairwise_mergeSort_names (fun source => source) _

theorem perm_sourcesAt (p : Plan) (id inlet : String) : (p.sourcesAt id inlet).Perm
    ((p.edges.filter fun e => e.target == id && e.inlet == inlet).map Edge.source) :=
  List.mergeSort_perm _ _

theorem length_sourcesAt (p : Plan) (id inlet : String) :
    (p.sourcesAt id inlet).length = (p.edges.map Edge.feeds).count (id, inlet) := by
  rw [(perm_sourcesAt p id inlet).length_eq, List.length_map, List.count_eq_countP,
    List.countP_map, List.countP_eq_length_filter]
  rfl

theorem mem_sourcesAt {feeder : String} : feeder ∈ p.sourcesAt id inlet ↔
    ∃ e ∈ p.edges, e.source = feeder ∧ e.target = id ∧ e.inlet = inlet := by
  rw [(perm_sourcesAt p id inlet).mem_iff]
  simp only [List.mem_map, List.mem_filter, Bool.and_eq_true, beq_iff_eq]
  constructor
  · rintro ⟨e, ⟨member, target, place⟩, source⟩
    exact ⟨e, member, source, target, place⟩
  · rintro ⟨e, member, source, target, place⟩
    exact ⟨e, ⟨member, target, place⟩, source⟩

theorem feeds_of_mem_sourcesAt {feeder : String} (h : feeder ∈ p.sourcesAt id inlet) :
    feeder ∈ p.predecessors id := by
  obtain ⟨e, member, source, target, -⟩ := mem_sourcesAt.mp h
  exact (mem_predecessors p feeder id).mpr ⟨e, member, source, target⟩

/-- Sorting all edges into a node sorts those into one of its inlets. -/
theorem map_source_incoming (p : Plan) (id inlet : String) :
    ((p.incoming [id]).filter (·.inlet == inlet)).map Edge.source = p.sourcesAt id inlet := by
  refine eq_of_perm_of_pairwise ?_ ?_ (pairwise_sourcesAt p id inlet)
  · refine List.Perm.trans ?_ (perm_sourcesAt p id inlet).symm
    have sorted := (List.mergeSort_perm (p.edges.filter fun e => [id].contains e.target)
      fun e e' => e.source ≤ e'.source).filter (·.inlet == inlet)
    have tests (e : Edge) : (e.inlet == inlet && [id].contains e.target) =
        (e.target == id && e.inlet == inlet) := by
      rw [Bool.and_comm, List.contains_cons, List.contains_nil, Bool.or_false]
    simp only [List.filter_filter, tests] at sorted
    exact sorted.map Edge.source
  · have sorted := pairwise_mergeSort_names Edge.source
      (p.edges.filter fun e => [id].contains e.target)
    exact List.pairwise_map.mpr (sorted.sublist List.filter_sublist)

theorem results_inputsFor {store : Store} {inputs : Inputs}
    (h : p.inputsFor id store = .ok inputs) (inlet : String) :
    inputs.results inlet = (p.sourcesAt id inlet).filterMap store.find? := by
  rw [results_gather h, Inputs.results_empty, List.nil_append, ← map_source_incoming,
    List.filterMap_map]
  rfl

theorem sourcesAt_eq (same : (p.edges.filter fun e => e.target == id && e.inlet == inlet).Perm
    (p'.edges.filter fun e => e.target == id && e.inlet == inlet)) :
    p.sourcesAt id inlet = p'.sourcesAt id inlet := by
  refine eq_of_perm_of_pairwise ?_ (pairwise_sourcesAt p id inlet) (pairwise_sourcesAt p' id inlet)
  exact (perm_sourcesAt p id inlet).trans ((same.map Edge.source).trans
    (perm_sourcesAt p' id inlet).symm)

theorem sourcesAt_singleton {e : Edge}
    (alone : (p.edges.filter fun e => e.target == id && e.inlet == inlet).Perm [e]) :
    p.sourcesAt id inlet = [e.source] :=
  List.perm_singleton.mp ((perm_sourcesAt p id inlet).trans (alone.map Edge.source))

/-- The order in which edges were submitted does not show at an inlet. -/
theorem sourcesAt_congr (same : (p.edges.filter (·.target == id)).Perm
    (p'.edges.filter (·.target == id))) (inlet : String) :
    p.sourcesAt id inlet = p'.sourcesAt id inlet := by
  apply sourcesAt_eq
  simpa [List.filter_filter, Bool.and_comm] using same.filter (·.inlet == inlet)

theorem predecessors_congr (same : (p.edges.filter (·.target == id)).Perm
    (p'.edges.filter (·.target == id))) : p.predecessors id = p'.predecessors id := by
  refine sortedNames_congr fun name => ?_
  rw [(same.map Edge.source).mem_iff]

end Plan

end BuildingWorkflow
