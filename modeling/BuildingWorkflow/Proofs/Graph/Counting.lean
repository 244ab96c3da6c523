import BuildingWorkflow.Proofs.Graph.Order
import Mathlib.Data.List.Nodup

/-!
The order of a plan by counting.

There is no need to look at all edges again for every node to place. It is enough to count the edges
that lead into a node from nodes not placed yet, parallel ones apart, to count one less with each
edge that is dealt with, and to keep the nodes without any at hand. The order is the same.
-/
namespace BuildingWorkflow

/-- A sort under way: the numbers of edges into the nodes that still wait for some, and the nodes
that wait for none. -/
structure Tally where
  counts : OrderedMap Nat
  ready : List String

namespace Tally

def initial (nodes : List String) (edges : List Edge) : Tally where
  counts := .ofList ((nodes.map fun id => (id, edges.countP (·.target = id))).filter (0 < ·.2))
  ready := nodes.filter fun id => edges.countP (·.target = id) = 0

/-- One edge into a node less. With the last one the node is ready; a node that is not counted cannot
lose any. -/
def release (t : Tally) (id : String) : Option Tally :=
  (t.counts.find? id).map fun count =>
    if count = 1 then ⟨t.counts.erase id, id :: t.ready⟩
    else ⟨t.counts.insert id (count - 1), t.ready⟩

def weight (t : Tally) : Nat := t.counts.size + t.ready.length

theorem weight_release {t t' : Tally} {id : String} (h : t.release id = some t') :
    t'.weight = t.weight := by
  obtain ⟨count, found, rfl⟩ := Option.map_eq_some_iff.mp h
  have known := OrderedMap.mem_keys_of_find? found
  split
  · have less := OrderedMap.size_erase known
    simp only [weight, List.length_cons]
    omega
  · simp only [weight, OrderedMap.size_eq_length_keys, OrderedMap.keys_insert, known, if_true]

/-- The edges of a node that is placed are dealt with one after another. -/
def releaseAll (t : Tally) : List Edge → Option Tally
  | [] => some t
  | e :: rest => (t.release e.target).bind fun next => releaseAll next rest

theorem weight_releaseAll {t t' : Tally} {edges : List Edge}
    (h : t.releaseAll edges = some t') : t'.weight = t.weight := by
  induction edges generalizing t with
  | nil => rw [Option.some.inj h]
  | cons e rest ih =>
      obtain ⟨next, released, further⟩ := Option.bind_eq_some_iff.mp h
      rw [ih further, weight_release released]

theorem weight_lt {t next : Tally} {id : String} {edges : List Edge}
    (least : leastName? t.ready = some id)
    (released : releaseAll ⟨t.counts, t.ready.erase id⟩ edges = some next) :
    next.weight < t.weight := by
  have member := (leastName?_spec least).1
  have positive := List.length_pos_of_mem member
  have same := weight_releaseAll released
  simp only [weight, List.length_erase_of_mem member] at same ⊢
  omega

/-- Places the least ready node again and again. An order is only found if no counts are left. -/
def sort (edges : List Edge) (t : Tally) : Option (List String) :=
  match least : leastName? t.ready with
  | none => if t.counts.isEmpty then some [] else none
  | some id =>
      match released : releaseAll ⟨t.counts, t.ready.erase id⟩
          (edges.filter (·.source = id)) with
      | none => none
      | some next =>
          have : next.weight < t.weight := weight_lt least released
          (sort edges next).map (id :: ·)
termination_by t.weight

theorem sort_of_unready {edges : List Edge} {t : Tally} (unready : leastName? t.ready = none) :
    t.sort edges = if t.counts.isEmpty then some [] else none := by
  rw [sort]
  split
  · rfl
  · rename_i least
    rw [unready] at least
    cases least

theorem sort_of_least {edges : List Edge} {t next : Tally} {id : String}
    (least : leastName? t.ready = some id)
    (released : releaseAll ⟨t.counts, t.ready.erase id⟩
      (edges.filter (·.source = id)) = some next) :
    t.sort edges = (next.sort edges).map (id :: ·) := by
  rw [sort]
  split
  · rename_i none
    rw [none] at least
    cases least
  · rename_i id' least'
    cases Option.some.inj (least'.symm.trans least)
    split
    · rename_i refused
      rw [refused] at released
      cases released
    · rename_i next' released'
      cases Option.some.inj (released'.symm.trans released)
      rfl

/-! ## What is counted -/

/-- The edges into a node from some others. -/
def pending (edges : List Edge) (remaining : List String) (id : String) : Nat :=
  edges.countP fun e => e.target = id ∧ e.source ∈ remaining

theorem isReady_iff_pending (edges : List Edge) (remaining : List String) (id : String) :
    isReady edges remaining id ↔ pending edges remaining id = 0 := by
  simp [isReady, pending, imp_iff_not_or]

theorem pending_split {remaining : List String} (nodup : remaining.Nodup) {id : String}
    (member : id ∈ remaining) (edges : List Edge) (other : String) :
    pending edges remaining other = pending edges (remaining.erase id) other +
      ((edges.filter (·.source = id)).map Edge.target).count other := by
  have split (source : String) : source ∈ remaining ↔ source = id ∨ source ∈ remaining.erase id := by
    rw [nodup.mem_erase_iff]
    by_cases same : source = id
    · simp [same, member]
    · simp [same]
  have apart : id ∉ remaining.erase id := nodup.not_mem_erase
  induction edges with
  | nil => rfl
  | cons e rest ih =>
      simp only [pending, List.countP_cons, split e.source] at ih ⊢
      rw [ih]
      by_cases source : e.source = id
      · by_cases target : e.target = other
        · simp [source, target, apart]
          omega
        · simp [source, target]
      · simp [source]
        omega

/-- The numbers of a tally when some nodes are not placed yet. -/
structure Tallies (remaining : List String) (number : String → Nat) (t : Tally) : Prop where
  counted : ∀ id, t.counts.find? id =
    if id ∈ remaining ∧ 0 < number id then some (number id) else none
  ready : ∀ id, id ∈ t.ready ↔ id ∈ remaining ∧ number id = 0
  once : t.ready.Nodup

namespace Tallies

variable {remaining : List String} {number : String → Nat} {t : Tally} {id : String}

theorem release (h : Tallies remaining number t) (known : id ∈ remaining)
    (positive : 0 < number id) : ∃ next, t.release id = some next ∧
      Tallies remaining (fun other => number other - if other = id then 1 else 0) next := by
  have found : t.counts.find? id = some (number id) := by
    rw [h.counted, if_pos ⟨known, positive⟩]
  have unready : id ∉ t.ready := fun member => by
    have zero := ((h.ready id).mp member).2
    omega
  refine ⟨_, by rw [Tally.release, found, Option.map_some], ?_⟩
  split
  · rename_i last
    refine ⟨fun other => ?_, fun other => ?_, List.nodup_cons.mpr ⟨unready, h.once⟩⟩
    · rw [OrderedMap.find?_erase, h.counted]
      by_cases same : other = id
      · simp [same, last]
      · simp [same]
    · rw [List.mem_cons, h.ready]
      by_cases same : other = id
      · simp [same, last, known]
      · simp [same]
  · rename_i more
    refine ⟨fun other => ?_, fun other => ?_, h.once⟩
    · rw [OrderedMap.find?_insert, h.counted]
      by_cases same : other = id
      · have left : 0 < number id - 1 := by omega
        simp [same, known, left]
      · simp [same]
    · rw [h.ready]
      by_cases same : other = id
      · have left : number id - 1 ≠ 0 := by omega
        have left' : number id ≠ 0 := by omega
        simp [same, left, left']
      · simp [same]

theorem releaseAll {edges : List Edge} (h : Tallies remaining number t)
    (known : ∀ e ∈ edges, e.target ∈ remaining)
    (enough : ∀ id, (edges.map Edge.target).count id ≤ number id) :
    ∃ next, t.releaseAll edges = some next ∧
      Tallies remaining (fun id => number id - (edges.map Edge.target).count id) next := by
  induction edges generalizing number t with
  | nil => exact ⟨t, rfl, by simpa using h⟩
  | cons e rest ih =>
      have here := enough e.target
      rw [List.map_cons, List.count_cons_self] at here
      obtain ⟨first, released, h'⟩ := h.release (known e List.mem_cons_self) (by omega)
      have count (id : String) : ((e :: rest).map Edge.target).count id =
          (rest.map Edge.target).count id + if id = e.target then 1 else 0 := by
        rw [List.map_cons, List.count_cons]
        simp only [beq_iff_eq, @eq_comm _ id]
      obtain ⟨next, further, h''⟩ := ih h' (fun e' member => known e' (.tail _ member)) fun id => by
        have total := enough id
        rw [count] at total
        omega
      refine ⟨next, by rw [Tally.releaseAll, released, Option.bind_some, further], ?_⟩
      convert h'' using 2 with id
      rw [count]
      omega

end Tallies

theorem tallies_initial {nodes : List String} (nodup : nodes.Nodup) {edges : List Edge}
    (sources : ∀ e ∈ edges, e.source ∈ nodes) :
    Tallies nodes (pending edges nodes) (initial nodes edges) := by
  have all (id : String) : pending edges nodes id = edges.countP (·.target = id) := by
    refine List.countP_congr fun e member => ?_
    simp [sources e member]
  have distinct : (((nodes.map fun id => (id, edges.countP (·.target = id))).filter
      (0 < ·.2)).map Prod.fst).Nodup := by
    refine List.Sublist.nodup (List.filter_sublist.map Prod.fst) ?_
    simpa [List.map_map, Function.comp_def] using nodup
  refine ⟨fun id => ?_, fun id => ?_, nodup.filter _⟩
  · rw [all]
    refine Option.ext fun count => ?_
    rw [← OrderedMap.mem_entries_iff, initial, OrderedMap.entries_ofList distinct,
      Option.ite_none_right_eq_some, Option.some.injEq]
    simp only [List.mem_filter, List.mem_map, Prod.mk.injEq, decide_eq_true_eq]
    constructor
    · rintro ⟨⟨id, member, rfl, rfl⟩, positive⟩
      exact ⟨⟨member, positive⟩, rfl⟩
    · rintro ⟨⟨member, positive⟩, rfl⟩
      exact ⟨⟨id, member, rfl, rfl⟩, positive⟩
  · rw [all, initial, List.mem_filter, decide_eq_true_eq]

theorem target_ne_of_pending {edges : List Edge} {remaining : List String} {id : String}
    (free : pending edges remaining id = 0) {e : Edge} (member : e ∈ edges)
    (waiting : e.source ∈ remaining) : e.target ≠ id := by
  intro same
  rw [pending, List.countP_eq_zero] at free
  exact free e member (by simp [same, waiting])

section Placing

variable {edges : List Edge} {remaining : List String} {t : Tally} {id : String}
  (nodup : remaining.Nodup) (closed : ∀ e ∈ edges, e.source ∈ remaining → e.target ∈ remaining)
  (free : pending edges remaining id = 0)

include nodup closed free

/-- No edge from a node that is still to be placed leads back to one that is. -/
theorem closed_erase : ∀ e ∈ edges, e.source ∈ remaining.erase id →
    e.target ∈ remaining.erase id := by
  intro e member waiting
  have source : e.source ∈ remaining := List.mem_of_mem_erase waiting
  exact nodup.mem_erase_iff.mpr ⟨target_ne_of_pending free member source, closed e member source⟩

/-- The edges of the node that is placed are the difference that placing it makes. -/
theorem exists_place (tallies : Tallies remaining (pending edges remaining) t)
    (member : id ∈ remaining) :
    ∃ next, releaseAll ⟨t.counts, t.ready.erase id⟩ (edges.filter (·.source = id)) = some next ∧
      Tallies (remaining.erase id) (pending edges (remaining.erase id)) next := by
  have popped : Tallies (remaining.erase id) (pending edges remaining)
      ⟨t.counts, t.ready.erase id⟩ := by
    refine ⟨fun other => ?_, fun other => ?_, tallies.once.erase id⟩
    · simp only [tallies.counted, nodup.mem_erase_iff]
      by_cases same : other = id
      · simp [same, free]
      · simp [same]
    · rw [tallies.once.mem_erase_iff, tallies.ready, nodup.mem_erase_iff, and_assoc]
  have inside : ∀ e ∈ edges.filter (·.source = id), e.target ∈ remaining.erase id := by
    intro e fromHere
    obtain ⟨known, source⟩ := List.mem_filter.mp fromHere
    have waiting : e.source ∈ remaining := of_decide_eq_true source ▸ member
    exact nodup.mem_erase_iff.mpr ⟨target_ne_of_pending free known waiting, closed e known waiting⟩
  have split := pending_split nodup member edges
  obtain ⟨next, released, rest⟩ := popped.releaseAll inside fun other => by
    rw [split other]
    omega
  refine ⟨next, released, ?_⟩
  convert rest using 2 with other
  rw [split other]
  omega

end Placing

variable {p : Plan}

/-- Counting places the same nodes as looking for the least ready one. -/
theorem sort_eq_placeAll (acyclic : ∀ id, ¬ Relation.TransGen p.Feeds id id) {remaining : List String}
    {t : Tally} (nodup : remaining.Nodup)
    (closed : ∀ e ∈ p.edges, e.source ∈ remaining → e.target ∈ remaining)
    (tallies : Tallies remaining (pending p.edges remaining) t) :
    t.sort p.edges = some (placeAll p.edges remaining.length remaining) := by
  generalize count : remaining.length = n
  induction n generalizing remaining t with
  | zero =>
      rw [List.length_eq_zero_iff] at count
      subst count
      have unready : t.ready = [] := List.eq_nil_iff_forall_not_mem.mpr fun id member => by
        simpa using (tallies.ready id).mp member
      have uncounted : t.counts.entries = [] := List.eq_nil_iff_forall_not_mem.mpr fun (id, count) => by
        rw [OrderedMap.mem_entries_iff, tallies.counted]
        simp
      rw [sort_of_unready (by rw [unready]; rfl)]
      simp [OrderedMap.isEmpty, uncounted, placeAll]
  | succ n ih =>
      have least : leastName? t.ready = leastName? (remaining.filter (isReady p.edges remaining)) := by
        refine leastName?_congr fun id => ?_
        rw [tallies.ready, List.mem_filter, isReady_iff_pending]
      rw [placeAll, ← least]
      cases found : leastName? t.ready with
      | none =>
          obtain ⟨id, member, ready⟩ :=
            Plan.exists_ready acyclic (List.ne_nil_of_length_eq_add_one count)
          rw [found, eq_comm, leastName?_eq_none_iff, List.filter_eq_nil_iff] at least
          exact absurd ready (least id member)
      | some id =>
          obtain ⟨member, free⟩ := (tallies.ready id).mp (leastName?_spec found).1
          obtain ⟨next, released, tallies'⟩ := exists_place nodup closed free tallies member
          have shorter : (remaining.erase id).length = n := by
            rw [List.length_erase_of_mem member, count, Nat.add_sub_cancel]
          have closed' := closed_erase nodup closed free
          rw [sort_of_least found released, ih (nodup.erase id) closed' tallies' shorter,
            Option.map_some]

end Tally

/-- The order of a graph by counting, if it can be counted out. -/
def Workflow.countedOrder (w : Workflow) : Option (List String) :=
  (Tally.initial w.nodes.keys w.edges).sort w.edges

theorem Workflow.countedOrder_eq {w : Workflow}
    (acyclic : ∀ id, ¬ Relation.TransGen w.plan.Feeds id id)
    (ends : ∀ e ∈ w.edges, e.source ∈ w.nodes.keys ∧ e.target ∈ w.nodes.keys) :
    w.countedOrder = some w.order := by
  have tallies := Tally.tallies_initial w.nodes.nodup_keys fun e member => (ends e member).1
  have sorted := Tally.sort_eq_placeAll acyclic w.nodes.nodup_keys
    (fun e member _ => (ends e member).2) tallies
  rwa [← OrderedMap.size_eq_length_keys] at sorted

end BuildingWorkflow
