import BuildingWorkflow.Proofs.Graph.Counting
import BuildingWorkflow.Proofs.Graph.Validation

/-!
The least order of a graph.

Where edges leave open which node comes next, the order of a plan takes the least one that may. No
other order along the edges is smaller, if orders are compared at the first place where they differ.
-/
namespace BuildingWorkflow

/-- What comes next is the least of the nodes that all feeders are placed of. -/
theorem Plan.least_placeAll {p : Plan} {n : Nat} {remaining before after : List String} {id : String}
    (h : placeAll p.edges n remaining = before ++ id :: after) (nodup : remaining.Nodup)
    {other : String} (waiting : other ∈ remaining) (unplaced : other ∉ before)
    (fed : ∀ feeder ∈ p.predecessors other, feeder ∈ remaining → feeder ∈ before) : id ≤ other := by
  induction n generalizing remaining before with
  | zero => simp [placeAll] at h
  | succ n ih =>
      simp only [placeAll] at h
      split at h
      · simp at h
      · rename_i first found
        cases before with
        | nil =>
            obtain ⟨rfl, -⟩ := List.cons.inj h
            refine (leastName?_spec found).2 other (List.mem_filter.mpr ⟨waiting, ?_⟩)
            exact (isReady_iff remaining other).mpr fun feeder feeds inside =>
              List.not_mem_nil (fed feeder feeds inside)
        | cons placed before =>
            obtain ⟨rfl, later⟩ := List.cons.inj h
            obtain ⟨apart, unplaced⟩ := not_or.mp (List.mem_cons.not.mp unplaced)
            refine ih later (nodup.erase first) ((List.mem_erase_of_ne apart).mpr waiting) unplaced ?_
            intro feeder feeds inside
            obtain ⟨apart, inside⟩ := nodup.mem_erase_iff.mp inside
            exact List.mem_of_ne_of_mem apart (fed feeder feeds inside)

namespace Workflow

/-- All nodes, and each of them after those that feed it. -/
structure Topological (w : Workflow) (order : List String) : Prop where
  perm : order.Perm w.nodes.keys
  along : ∀ e ∈ w.edges, ∀ before after, order = before ++ e.target :: after → e.source ∈ before

/-- A node that may come next after some others: it is not among them, and all that feeds it is. -/
structure Next (w : Workflow) (before : List String) (id : String) : Prop where
  known : id ∈ w.nodes.keys
  unplaced : id ∉ before
  fed : ∀ e ∈ w.edges, e.target = id → e.source ∈ before

variable {w : Workflow}

theorem Topological.next {order before after : List String} {id : String}
    (h : w.Topological order) (split : order = before ++ id :: after) : w.Next before id where
  known := h.perm.mem_iff.mp (split ▸ List.mem_append_right _ List.mem_cons_self)
  unplaced := by
    have nodup : order.Nodup := h.perm.nodup_iff.mpr w.nodes.nodup_keys
    rw [split, List.nodup_append'] at nodup
    exact fun member => nodup.2.2 member List.mem_cons_self
  fed := by
    rintro e member rfl
    exact h.along e member before after split

theorem topological_of_ordered (o : w.plan.Ordered) : w.Topological w.plan.order where
  perm := o.perm
  along e member before after split := o.earlier before e.target after split e.source
    ((Plan.mem_predecessors w.plan e.source e.target).mpr ⟨e, member, rfl, rfl⟩)

theorem le_of_next {before after : List String} {id other : String}
    (split : w.plan.order = before ++ id :: after) (next : w.Next before other) : id ≤ other := by
  refine Plan.least_placeAll (p := w.plan) split w.nodes.nodup_keys next.known next.unplaced ?_
  intro feeder feeds _
  obtain ⟨e, member, rfl, target⟩ := (Plan.mem_predecessors w.plan feeder other).mp feeds
  exact next.fed e member target

/-- Up to the first difference an order along the edges has the same nodes before it, so the node
that it takes there is one of those that might have been taken. -/
theorem lex_of_topological {other common rest rest' : List String} (h : w.Topological other)
    (split : w.plan.order = common ++ rest) (split' : other = common ++ rest')
    (length : rest'.length = rest.length) : rest' = rest ∨ List.Lex (· < ·) rest rest' := by
  induction rest generalizing common rest' with
  | nil => exact .inl (List.eq_nil_of_length_eq_zero length)
  | cons id rest ih =>
      obtain ⟨id', rest', rfl⟩ := List.exists_cons_of_length_eq_add_one length
      have below : id ≤ id' := le_of_next split (h.next split')
      by_cases same : id' = id
      · subst same
        rw [List.append_cons] at split split'
        obtain rfl | less := ih split split' (Nat.succ.inj length)
        · exact .inl rfl
        · exact .inr (.cons less)
      · exact .inr (.rel (lt_of_le_of_ne below (Ne.symm same)))

/-- The order of a graph that is taken is the one that counting finds. It has all nodes, the source
of each edge before its target, and at every place the least node that may come next, so no order
along the edges is smaller. -/
theorem order_least {draft : Draft} (valid : draft.validate = .ok w) :
    w.countedOrder = some w.plan.order ∧ w.Topological w.plan.order ∧
      (∀ before id after, w.plan.order = before ++ id :: after →
        w.Next before id ∧ ∀ other, w.Next before other → id ≤ other) ∧
      ∀ other, w.Topological other →
        other = w.plan.order ∨ List.Lex (· < ·) w.plan.order other := by
  have topological := topological_of_ordered (Draft.ordered_of_validate valid)
  refine ⟨?_, topological, fun before id after split => ?_, fun other h => ?_⟩
  · exact countedOrder_eq (Draft.acyclic_of_validate valid) fun e => Draft.ends_of_validate valid
  · exact ⟨topological.next split, fun other => le_of_next split⟩
  · have length := (h.perm.trans topological.perm.symm).length_eq
    exact lex_of_topological h (List.nil_append _).symm (List.nil_append _).symm length

theorem order_least_watched : Workflow.watched.countedOrder = some ["model", "view"] ∧
    ∀ other, Workflow.watched.Topological other →
      other = ["model", "view"] ∨ List.Lex (· < ·) ["model", "view"] other := by
  have order : Workflow.watched.plan.order = ["model", "view"] := by decide +kernel
  obtain ⟨counted, -, -, least⟩ := order_least Draft.validate_watched
  exact ⟨order ▸ counted, order ▸ least⟩

end Workflow

end BuildingWorkflow
