import BuildingWorkflow.Proofs.Graph.Feeding
import Mathlib.Data.Set.Finite.Basic
import Mathlib.Order.WellFounded

/-!
The order of a plan.

Without cycles there is always a node to place next, so every node is placed, and each one after
those that feed it. What holds of a node whenever it holds of those that feed it then holds of all.
-/
namespace BuildingWorkflow
namespace Plan

variable {p : Plan}

theorem isReady_iff (remaining : List String) (id : String) :
    isReady p.edges remaining id ↔ ∀ feeder ∈ p.predecessors id, feeder ∉ remaining := by
  simp only [isReady, List.all_eq_true, Bool.or_eq_true, bne_iff_ne, Bool.not_eq_true',
    mem_predecessors]
  constructor
  · rintro h feeder ⟨e, member, rfl, target⟩ inside
    cases h e member with
    | inl other => exact other target
    | inr outside => simp [inside] at outside
  · intro h e member
    by_cases target : e.target = id
    · exact .inr (by simpa using h e.source ⟨e, member, rfl, target⟩)
    · exact .inl target

theorem exists_ready (acyclic : ∀ id, ¬ Relation.TransGen p.Feeds id id) {remaining : List String}
    (h : remaining ≠ []) : ∃ id ∈ remaining, isReady p.edges remaining id := by
  let before (a b : {id // id ∈ remaining}) : Prop := Relation.TransGen p.Feeds a b
  have : IsTrans _ before := ⟨fun _ _ _ => Relation.TransGen.trans⟩
  have : Std.Irrefl before := ⟨fun a => acyclic a⟩
  have finite : Finite {id // id ∈ remaining} := remaining.finite_toSet
  have wf : WellFounded before := Finite.wellFounded_of_trans_of_irrefl before
  obtain ⟨first, member⟩ := List.exists_mem_of_ne_nil remaining h
  obtain ⟨⟨id, inside⟩, -, least⟩ := wf.has_min Set.univ ⟨⟨first, member⟩, trivial⟩
  refine ⟨id, inside, (isReady_iff remaining id).mpr fun feeder feeds waiting => ?_⟩
  exact least ⟨feeder, waiting⟩ trivial (Relation.TransGen.single feeds)

theorem perm_placeAll (acyclic : ∀ id, ¬ Relation.TransGen p.Feeds id id)
    (remaining : List String) : (placeAll p.edges remaining.length remaining).Perm remaining := by
  generalize count : remaining.length = n
  induction n generalizing remaining with
  | zero => rw [List.eq_nil_of_length_eq_zero count]; rfl
  | succ n ih =>
      have ready := exists_ready acyclic (List.ne_nil_of_length_eq_add_one count)
      simp only [placeAll]
      split
      · rename_i none
        rw [leastName?_eq_none_iff, List.filter_eq_nil_iff] at none
        obtain ⟨id, member, isReady⟩ := ready
        exact absurd isReady (none id member)
      · rename_i id found
        have inside : id ∈ remaining := List.mem_of_mem_filter (leastName?_spec found).1
        have shorter : (remaining.erase id).length = n := by
          rw [List.length_erase_of_mem inside, count, Nat.add_sub_cancel]
        exact ((ih _ shorter).cons id).trans (List.perm_cons_erase inside).symm

theorem earlier_placeAll {n : Nat} {remaining before after : List String} {id : String}
    (h : placeAll p.edges n remaining = before ++ id :: after) :
    ∀ feeder ∈ p.predecessors id, feeder ∈ remaining → feeder ∈ before := by
  induction n generalizing remaining before with
  | zero => simp [placeAll] at h
  | succ n ih =>
      intro feeder feeds waiting
      simp only [placeAll] at h
      split at h
      · simp at h
      · rename_i first found
        cases before with
        | nil =>
            obtain ⟨rfl, -⟩ := List.cons.inj h
            have ready := (List.mem_filter.mp (leastName?_spec found).1).2
            exact absurd waiting ((isReady_iff remaining first).mp ready feeder feeds)
        | cons other before =>
            obtain ⟨rfl, later⟩ := List.cons.inj h
            by_cases same : feeder = first
            · exact same ▸ List.mem_cons_self
            · exact List.mem_cons_of_mem _
                (ih later feeder feeds ((List.mem_erase_of_ne same).mpr waiting))

theorem order_induction (p : Plan) {P : List String → Prop} (start : P [])
    (place : ∀ before last after, p.order = before ++ last :: after → P before →
      P (before ++ [last])) : P p.order := by
  have placed : ∀ before after, p.order = before ++ after → P before := by
    intro before
    induction before using List.reverseRecOn with
    | nil => exact fun _ _ => start
    | append_singleton before last ih =>
        intro after split
        rw [List.append_assoc, List.singleton_append] at split
        exact place before last after split (ih _ split)
  exact placed p.order [] (List.append_nil _).symm

/-- The order lists every node once, after those that feed it, and edges lead to nodes only. -/
structure Ordered (p : Plan) : Prop where
  perm : p.order.Perm p.nodes.keys
  earlier : ∀ before id after, p.order = before ++ id :: after →
    ∀ feeder ∈ p.predecessors id, feeder ∈ before
  known : ∀ feeder id, p.Feeds feeder id → id ∈ p.nodes.keys

namespace Ordered

theorem mem_order (o : p.Ordered) (id : String) : id ∈ p.order ↔ id ∈ p.nodes.keys := o.perm.mem_iff

theorem nodup_order (o : p.Ordered) : p.order.Nodup := o.perm.nodup_iff.mpr p.nodes.nodup_keys

theorem length_order (o : p.Ordered) : p.order.length = p.nodes.size := by
  rw [o.perm.length_eq, OrderedMap.size_eq_length_keys]

theorem source_known (o : p.Ordered) {feeder id : String} (h : p.Feeds feeder id) :
    feeder ∈ p.nodes.keys := by
  have member : id ∈ p.order := (o.mem_order id).mpr (o.known feeder id h)
  obtain ⟨before, after, split⟩ := List.append_of_mem member
  refine (o.mem_order feeder).mp ?_
  rw [split]
  exact List.mem_append_left _ (o.earlier before id after split feeder h)

theorem known_of_transGen (o : p.Ordered) {id below : String}
    (h : Relation.TransGen p.Feeds id below) : below ∈ p.nodes.keys := by
  obtain ⟨feeder, -, feeds⟩ := Relation.TransGen.tail'_iff.mp h
  exact o.known feeder below feeds

/-- What a node inherits from those that feed it holds of every node. -/
theorem induction (o : p.Ordered) {P : String → Prop}
    (step : ∀ id, (∀ feeder, p.Feeds feeder id → P feeder) → P id) : ∀ id, P id := by
  have placed : ∀ id ∈ p.order, P id := by
    refine p.order_induction (P := fun before => ∀ id ∈ before, P id) nofun ?_
    intro before last after split ih id member
    cases List.mem_append.mp member with
    | inl inside => exact ih id inside
    | inr isLast =>
        rw [List.mem_singleton.mp isLast]
        exact step last fun feeder feeds =>
          ih feeder (o.earlier before last after split feeder feeds)
  intro id
  refine step id fun feeder feeds => placed feeder ?_
  exact (o.mem_order feeder).mpr (o.source_known feeds)

theorem acyclic (o : p.Ordered) (id : String) : ¬ Relation.TransGen p.Feeds id id := by
  refine o.induction (P := fun id => ¬ Relation.TransGen p.Feeds id id) (fun id ih cycle => ?_) id
  obtain ⟨feeder, back, feeds⟩ := Relation.TransGen.tail'_iff.mp cycle
  exact ih feeder feeds (Relation.TransGen.head' feeds back)

end Ordered

theorem fedFrom_iff (id : String) (others : List String) (node : String) :
    p.fedFrom id others node ↔ ∃ feeder, p.Feeds feeder node ∧ (feeder = id ∨ feeder ∈ others) := by
  simp only [fedFrom, List.any_eq_true, Bool.and_eq_true, beq_iff_eq, Bool.or_eq_true, Feeds,
    mem_predecessors, List.contains_iff_mem]
  constructor
  · rintro ⟨e, member, target, source⟩
    exact ⟨e.source, ⟨e, member, rfl, target⟩, source⟩
  · rintro ⟨feeder, ⟨e, member, rfl, target⟩, source⟩
    exact ⟨e, member, target, source⟩

/-- The nodes found downstream are those that a path of edges leads to. -/
theorem Ordered.mem_downstream (o : p.Ordered) (id node : String) :
    node ∈ p.downstream id ↔ Relation.TransGen p.Feeds id node := by
  let add (found : List String) (node : String) : List String :=
    if p.fedFrom id found node then found ++ [node] else found
  have placed : ∀ node, node ∈ p.order.foldl add [] ↔
      node ∈ p.order ∧ Relation.TransGen p.Feeds id node := by
    refine p.order_induction (P := fun before => ∀ node, node ∈ before.foldl add [] ↔
      node ∈ before ∧ Relation.TransGen p.Feeds id node) (by simp) ?_
    intro before last after split ih node
    have fed : p.fedFrom id (before.foldl add []) last ↔ Relation.TransGen p.Feeds id last := by
      rw [fedFrom_iff, Relation.TransGen.tail'_iff]
      refine exists_congr fun feeder => ?_
      rw [and_comm, Relation.reflTransGen_iff_eq_or_transGen, ih feeder]
      refine and_congr_left fun feeds => or_congr_right ?_
      exact and_iff_right (o.earlier before last after split feeder feeds)
    rw [List.foldl_append, List.foldl_cons, List.foldl_nil]
    by_cases reached : p.fedFrom id (before.foldl add []) last
    · have below := fed.mp reached
      simp only [add, reached, if_true, List.mem_append, List.mem_singleton, ih node]
      constructor
      · rintro (⟨inside, path⟩ | rfl)
        · exact ⟨.inl inside, path⟩
        · exact ⟨.inr rfl, below⟩
      · rintro ⟨inside | isLast, path⟩
        · exact .inl ⟨inside, path⟩
        · exact .inr isLast
    · have notBelow := fed.not.mp reached
      simp only [add, reached, Bool.false_eq_true, if_false, List.mem_append, List.mem_singleton,
        ih node]
      constructor
      · rintro ⟨inside, path⟩
        exact ⟨.inl inside, path⟩
      · rintro ⟨inside | rfl, path⟩
        · exact ⟨inside, path⟩
        · exact absurd path notBelow
  refine (placed node).trans (and_iff_right_of_imp fun path => ?_)
  exact (o.mem_order node).mpr (o.known_of_transGen path)

end Plan

end BuildingWorkflow
