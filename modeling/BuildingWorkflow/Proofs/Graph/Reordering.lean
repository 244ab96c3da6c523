import BuildingWorkflow.Proofs.Graph.Acceptance
import BuildingWorkflow.Proofs.Graph.Inlets
import Mathlib.Data.List.Perm.Basic

/-!
Graphs in another order.

A document lists nodes and edges in some order, which is kept while the graph is read and checked.
Which graphs are taken, in which order their nodes run and what feeds each inlet does not depend
on it.
-/
namespace BuildingWorkflow

/-! ## Documents -/

namespace Reading

variable {α β : Type} {read : Value → Reading α}

/-- The items of a list are read one by one. -/
theorem items_eq_ok_iff (i : Nat) (items : List Value) (values : List α) :
    Reading.items read i items = .ok values ↔
      List.Forall₂ (fun v a => read v = .ok a) items values := by
  induction items generalizing i values with
  | nil => simp [Reading.items, eq_comm]
  | cons v rest ih =>
      simp only [Reading.items, seq_eq_ok_iff, fmap_eq_ok_iff, under_eq_ok_iff, ih,
        List.forall₂_cons_left_iff]
      constructor
      · intro parts
        obtain ⟨g, as, ⟨a, read, named⟩, others, same⟩ := parts
        exact ⟨a, as, read, others, named ▸ same.symm⟩
      · intro parts
        obtain ⟨a, as, read, others, same⟩ := parts
        exact ⟨_, as, ⟨a, read, rfl⟩, others, same.symm⟩

end Reading

/-- The same value, or lists of the same items in another order. -/
inductive Value.Reordered : Value → Value → Prop
  | same (v : Value) : Reordered v v
  | list {items items' : List Value} (perm : items.Perm items') :
      Reordered (.list items) (.list items')

/-- Documents that list the same nodes and the same edges, maybe in another order. -/
structure Bag.Reordered (bag bag' : Bag) : Prop where
  nodes : Option.Rel Value.Reordered (bag.lookup "nodes") (bag'.lookup "nodes")
  edges : Option.Rel Value.Reordered (bag.lookup "edges") (bag'.lookup "edges")

/-- Graphs with the same nodes and the same edges, maybe in another order. -/
structure Draft.Reordered (draft draft' : Draft) : Prop where
  nodes : draft.nodes.Perm draft'.nodes
  edges : draft.edges.Perm draft'.edges

section Documents

variable {α : Type} {read : Value → Reading α} {values : List α}

theorem Value.Reordered.symm {v v' : Value} (h : v.Reordered v') : v'.Reordered v := by
  cases h with
  | same => exact .same v
  | list perm => exact .list perm.symm

theorem Value.Reordered.symm_rel {v v' : Option Value} (h : Option.Rel Value.Reordered v v') :
    Option.Rel Value.Reordered v' v := by
  cases h with
  | none => exact .none
  | some same => exact .some same.symm

theorem Value.Reordered.readList {v v' : Value} (h : v.Reordered v')
    (ok : readList read v = .ok values) :
    ∃ values', BuildingWorkflow.readList read v' = .ok values' ∧ values.Perm values' := by
  cases h with
  | same => exact ⟨values, ok, List.Perm.refl values⟩
  | list perm =>
      have each := (Reading.items_eq_ok_iff 0 _ values).mp ok
      obtain ⟨values', each', perm'⟩ := List.perm_comp_forall₂ perm.symm each
      exact ⟨values', (Reading.items_eq_ok_iff 0 _ values').mpr each', perm'.symm⟩

theorem optionAt_singleton (bag : Bag) (name : String) (default : α) (read : Value → Reading α) :
    optionAt bag [name] default read =
      (bag.lookup name).elim (.ok default) fun v => (read v).under name := by
  have spelled : spelled? bag [name] = (bag.lookup name).map (name, ·) := by
    simp only [spelled?, List.findSome?_cons, List.findSome?_nil]
    cases (bag.lookup name).map (name, ·) <;> rfl
  rw [optionAt, spelled]
  cases bag.lookup name <;> rfl

theorem Value.Reordered.elim_readList {v v' : Option Value} {name : String}
    (h : Option.Rel Value.Reordered v v')
    (ok : v.elim (.ok []) (fun v => (BuildingWorkflow.readList read v).under name) = .ok values) :
    ∃ values', v'.elim (.ok []) (fun v => (BuildingWorkflow.readList read v).under name) =
      .ok values' ∧ values.Perm values' := by
  cases h with
  | none => exact ⟨values, ok, List.Perm.refl values⟩
  | some same =>
      simp only [Option.elim_some, Reading.under_eq_ok_iff] at ok ⊢
      exact same.readList ok

theorem Draft.ofDocument_eq_ok_iff {bag : Bag} {draft : Draft} :
    Draft.ofDocument (.map bag) = .ok draft ↔
      optionAt bag ["nodes"] [] (readList readNode) = .ok draft.nodes ∧
        optionAt bag ["edges"] [] (readList readEdge) = .ok draft.edges := by
  have reading : Draft.ofDocument (.map bag) = .ok draft ↔
      readDraft (.map bag) = .ok draft := by
    unfold Draft.ofDocument
    cases readDraft (.map bag) <;> simp
  simp only [reading, readDraft, readRecord, Reading.seq_eq_ok_iff, Reading.fmap_eq_ok_iff]
  constructor
  · intro parts
    obtain ⟨g, edges, ⟨nodes, nodesRead, named⟩, edgesRead, same⟩ := parts
    subst named same
    exact ⟨nodesRead, edgesRead⟩
  · intro parts
    obtain ⟨nodesRead, edgesRead⟩ := parts
    exact ⟨_, _, ⟨_, nodesRead, rfl⟩, edgesRead, rfl⟩

namespace Bag.Reordered

variable {bag bag' : Bag} (h : bag.Reordered bag')

include h

theorem symm : bag'.Reordered bag where
  nodes := Value.Reordered.symm_rel h.nodes
  edges := Value.Reordered.symm_rel h.edges

/-- What is read of a document does not depend on its order either. -/
theorem exists_ofDocument {draft : Draft} (ok : Draft.ofDocument (.map bag) = .ok draft) :
    ∃ draft', Draft.ofDocument (.map bag') = .ok draft' ∧ draft.Reordered draft' := by
  obtain ⟨nodesRead, edgesRead⟩ := Draft.ofDocument_eq_ok_iff.mp ok
  rw [optionAt_singleton] at nodesRead edgesRead
  obtain ⟨nodes, nodesRead', nodesPerm⟩ := Value.Reordered.elim_readList h.nodes nodesRead
  obtain ⟨edges, edgesRead', edgesPerm⟩ := Value.Reordered.elim_readList h.edges edgesRead
  rw [← optionAt_singleton] at nodesRead' edgesRead'
  exact ⟨⟨nodes, edges⟩, Draft.ofDocument_eq_ok_iff.mpr ⟨nodesRead', edgesRead'⟩,
    nodesPerm, edgesPerm⟩

end Bag.Reordered

end Documents

/-! ## Graphs -/

namespace Draft.Reordered

variable {draft draft' : Draft} (h : draft.Reordered draft')

include h

theorem symm : draft'.Reordered draft := ⟨h.nodes.symm, h.edges.symm⟩

theorem ids : draft.ids.Perm draft'.ids := h.nodes.map DraftNode.id

theorem wellFormed (wellFormed : draft.WellFormed) : draft'.WellFormed where
  distinct := h.ids.nodup_iff.mp wellFormed.distinct
  kinds node member := wellFormed.kinds node (h.nodes.mem_iff.mpr member)
  options node member := wellFormed.options node (h.nodes.mem_iff.mpr member)
  ends e member := by
    obtain ⟨source, target, apart⟩ := wellFormed.ends e (h.edges.mem_iff.mpr member)
    exact ⟨h.ids.mem_iff.mp source, h.ids.mem_iff.mp target, apart⟩
  outlets e member := wellFormed.outlets e (h.edges.mem_iff.mpr member)
  inlets e member := by
    obtain ⟨node, isNode, has⟩ := wellFormed.inlets e (h.edges.mem_iff.mpr member)
    exact ⟨node, h.nodes.mem_iff.mp isNode, has⟩
  uncrowded node member inlet has single := by
    rw [← (h.edges.map Edge.feeds).count_eq]
    exact wellFormed.uncrowded node (h.nodes.mem_iff.mpr member) inlet has single

theorem acyclic (acyclic : draft.Acyclic) : draft'.Acyclic := by
  intro id cycle
  refine acyclic id (Relation.TransGen.mono (fun feeder id leads => ?_) _ _ cycle)
  obtain ⟨e, member, ends⟩ := leads
  exact ⟨e, h.edges.mem_iff.mpr member, ends⟩

theorem exists_validate {w : Workflow} (valid : draft.validate = .ok w) :
    ∃ w', draft'.validate = .ok w' := by
  obtain ⟨wellFormed, acyclic⟩ := exists_validate_iff.mp ⟨w, valid⟩
  exact exists_validate_iff.mpr ⟨h.wellFormed wellFormed, h.acyclic acyclic⟩

end Draft.Reordered

/-! ## Plans -/

theorem isReady_congr {edges edges' : List Edge} {remaining remaining' : List String}
    (same : edges.Perm edges') (perm : remaining.Perm remaining') (id : String) :
    isReady edges remaining id = isReady edges' remaining' id := by
  rw [Bool.eq_iff_iff]
  simp [isReady, same.mem_iff, perm.mem_iff]

theorem placeAll_congr {edges edges' : List Edge} {remaining remaining' : List String}
    (same : edges.Perm edges') (n : Nat) (perm : remaining.Perm remaining') :
    placeAll edges n remaining = placeAll edges' n remaining' := by
  induction n generalizing remaining remaining' with
  | zero => rfl
  | succ n ih =>
      have least : leastName? (remaining.filter (isReady edges remaining)) =
          leastName? (remaining'.filter (isReady edges' remaining')) := by
        apply leastName?_congr
        intro id
        simp only [List.mem_filter, perm.mem_iff, isReady_congr same perm]
      simp only [placeAll, least]
      cases leastName? (remaining'.filter (isReady edges' remaining')) with
      | none => rfl
      | some id => simp only [ih (perm.erase id)]

/-- Plans with the same nodes and the same edges, maybe in another order. -/
structure Plan.Reordered (p p' : Plan) : Prop where
  nodes : ∀ id, p'.nodes.find? id = p.nodes.find? id
  edges : p.edges.Perm p'.edges

namespace Plan.Reordered

variable {p p' : Plan} (h : p.Reordered p')

include h

theorem predecessors (id : String) : p.predecessors id = p'.predecessors id :=
  predecessors_congr (h.edges.filter _)

theorem sourcesAt (id inlet : String) : p.sourcesAt id inlet = p'.sourcesAt id inlet :=
  sourcesAt_congr (h.edges.filter _) inlet

theorem mem_keys_iff (id : String) : id ∈ p'.nodes.keys ↔ id ∈ p.nodes.keys := by
  rw [← not_iff_not, ← OrderedMap.find?_eq_none_iff, ← OrderedMap.find?_eq_none_iff, h.nodes]

end Plan.Reordered

namespace Draft.Reordered

variable {draft draft' : Draft} {w w' : Workflow} (h : draft.Reordered draft')
  (valid : draft.validate = .ok w) (valid' : draft'.validate = .ok w')

include h valid valid'

theorem plan : w.plan.Reordered w'.plan where
  nodes id := find?_congr valid valid' fun node _ => h.nodes.mem_iff.symm
  edges := by
    obtain ⟨-, -, rfl⟩ := validate_eq_ok_iff.mp valid
    obtain ⟨-, -, rfl⟩ := validate_eq_ok_iff.mp valid'
    exact h.edges

/-- Nodes run in the same order. -/
theorem order : w'.order = w.order := by
  have keys : w.nodes.keys.Perm w'.nodes.keys := by
    rw [validate_keys valid, validate_keys valid']
    exact h.ids
  rw [Workflow.order, Workflow.order, OrderedMap.size_eq_length_keys,
    OrderedMap.size_eq_length_keys, ← keys.length_eq]
  exact (placeAll_congr (h.plan valid valid').edges _ keys).symm

end Draft.Reordered

end BuildingWorkflow
