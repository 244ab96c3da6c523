import BuildingWorkflow.Proofs.Graph.Acceptance

/-!
Branches of a graph.

A branch has some nodes of a graph, with all that feeds them and the edges between them. If the
graph is taken, so is the branch on its own; its nodes are read alike, and the same edges lead into
them.
-/
namespace BuildingWorkflow

/-- Some nodes of a plan with the edges into them; what feeds one of them is one of them. -/
structure Plan.Branch (branch p : Plan) (inside : String → Bool) : Prop where
  nodes : ∀ id, branch.nodes.find? id = if inside id then p.nodes.find? id else none
  edges : ∀ id, inside id →
    branch.edges.filter (·.target == id) = p.edges.filter (·.target == id)
  closed : ∀ id, inside id → ∀ feeder ∈ p.predecessors id, inside feeder

namespace Draft

/-- Some nodes of a graph, and the edges between them. -/
def restrict (draft : Draft) (inside : String → Bool) : Draft where
  nodes := draft.nodes.filter fun node => inside node.id
  edges := draft.edges.filter fun e => inside e.source && inside e.target

variable {draft : Draft} {inside : String → Bool}

theorem mem_nodes_restrict {node : DraftNode} :
    node ∈ (draft.restrict inside).nodes ↔ node ∈ draft.nodes ∧ inside node.id := List.mem_filter

theorem mem_edges_restrict {e : Edge} :
    e ∈ (draft.restrict inside).edges ↔ e ∈ draft.edges ∧ inside e.source ∧ inside e.target := by
  rw [restrict, List.mem_filter, Bool.and_eq_true]

theorem ids_restrict : (draft.restrict inside).ids = draft.ids.filter inside := by
  simp [ids, restrict, List.filter_map, Function.comp_def]

theorem mem_ids_restrict {id : String} :
    id ∈ (draft.restrict inside).ids ↔ id ∈ draft.ids ∧ inside id := by
  rw [ids_restrict, List.mem_filter]

theorem WellFormed.restrict (h : draft.WellFormed) (inside : String → Bool) :
    (draft.restrict inside).WellFormed where
  distinct := ids_restrict ▸ h.distinct.filter inside
  kinds node member := h.kinds node (mem_nodes_restrict.mp member).1
  options node member := h.options node (mem_nodes_restrict.mp member).1
  ends e member := by
    obtain ⟨known, source, target⟩ := mem_edges_restrict.mp member
    obtain ⟨fromNode, toNode, apart⟩ := h.ends e known
    exact ⟨mem_ids_restrict.mpr ⟨fromNode, source⟩, mem_ids_restrict.mpr ⟨toNode, target⟩, apart⟩
  outlets e member := h.outlets e (mem_edges_restrict.mp member).1
  inlets e member := by
    obtain ⟨known, -, target⟩ := mem_edges_restrict.mp member
    obtain ⟨node, isNode, same, has⟩ := h.inlets e known
    exact ⟨node, mem_nodes_restrict.mpr ⟨isNode, same ▸ target⟩, same, has⟩
  uncrowded node member inlet has single := by
    have fewer : (draft.restrict inside).edges.Sublist draft.edges := List.filter_sublist
    exact le_trans ((fewer.map Edge.feeds).count_le _)
      (h.uncrowded node (mem_nodes_restrict.mp member).1 inlet has single)

theorem Acyclic.restrict (h : draft.Acyclic) (inside : String → Bool) :
    (draft.restrict inside).Acyclic := by
  refine fun id cycle => h id (Relation.TransGen.mono (fun feeder id leads => ?_) _ _ cycle)
  obtain ⟨e, member, ends⟩ := leads
  exact ⟨e, (mem_edges_restrict.mp member).1, ends⟩

/-- A part of a graph that is taken is taken too. -/
theorem exists_validate_restrict {w : Workflow} (valid : draft.validate = .ok w)
    (inside : String → Bool) : ∃ branch, (draft.restrict inside).validate = .ok branch := by
  obtain ⟨wellFormed, acyclic⟩ := exists_validate_iff.mp ⟨w, valid⟩
  exact exists_validate_iff.mpr ⟨wellFormed.restrict inside, acyclic.restrict inside⟩

section Branches

variable {w branch : Workflow} (valid : draft.validate = .ok w)
  (valid' : (draft.restrict inside).validate = .ok branch)

include valid valid'

theorem find?_of_validate_restrict (id : String) :
    branch.nodes.find? id = if inside id then w.nodes.find? id else none := by
  by_cases isInside : inside id
  · rw [if_pos isInside]
    refine find?_congr valid valid' fun node same => ?_
    rw [mem_nodes_restrict, same, and_iff_left isInside]
  · rw [if_neg isInside, OrderedMap.find?_eq_none_iff, validate_keys valid']
    exact fun member => isInside (mem_ids_restrict.mp member).2

theorem branch_of_validate (closed : ∀ e ∈ draft.edges, inside e.target → inside e.source) :
    branch.plan.Branch w.plan inside where
  nodes := find?_of_validate_restrict valid valid'
  edges id isInside := by
    obtain ⟨-, -, rfl⟩ := validate_eq_ok_iff.mp valid
    obtain ⟨-, -, rfl⟩ := validate_eq_ok_iff.mp valid'
    refine (List.filter_filter ..).trans (List.filter_congr fun e member => ?_)
    by_cases target : e.target = id
    · have source := closed e member (target ▸ isInside)
      simp [target, source, isInside]
    · simp [target]
  closed id isInside feeder feeds := by
    obtain ⟨e, member, rfl, rfl⟩ := (Plan.mem_predecessors w.plan feeder id).mp feeds
    obtain ⟨-, -, rfl⟩ := validate_eq_ok_iff.mp valid
    exact closed e member isInside

end Branches

end Draft

end BuildingWorkflow
