import BuildingWorkflow.Proofs.Graph.Inlets
import BuildingWorkflow.Proofs.Graph.Validation

/-!
Inputs gathered along the edges.

The edges into an inlet stand in a row, by their sources and then as they were submitted. A node of
a graph that is taken is fed along these rows, each edge bringing the result of its source, unless a
source has no result yet. That edges of one source keep their places is the stability of the sort;
the results alone would not show it.
-/
namespace BuildingWorkflow

/-! ## Rows of edges -/

/-- An edge, with its position among those submitted, stands before another one. -/
def Edge.Before (entry entry' : Edge × Nat) : Prop :=
  entry.1.source < entry'.1.source ∨ entry.1.source = entry'.1.source ∧ entry.2 < entry'.2

def Edge.sortBySource (entries : List (Edge × Nat)) : List (Edge × Nat) :=
  entries.mergeSort fun entry entry' => entry.1.source ≤ entry'.1.source

section Sorting

variable (entries : List (Edge × Nat))

theorem Edge.filter_sortBySource (source : String) :
    (sortBySource entries).filter (·.1.source == source) =
      entries.filter (·.1.source == source) := by
  have together : (entries.filter (·.1.source == source)).Pairwise
      fun entry entry' => entry.1.source ≤ entry'.1.source := by
    refine List.pairwise_of_forall_mem_list fun entry member entry' member' => ?_
    have here := (List.mem_filter.mp member).2
    have here' := (List.mem_filter.mp member').2
    rw [beq_iff_eq] at here here'
    exact le_of_eq (here.trans here'.symm)
  have kept : (entries.filter (·.1.source == source)).Sublist (sortBySource entries) := by
    refine List.sublist_mergeSort ?_ ?_ (together.imp decide_eq_true) List.filter_sublist
    · intro a b c hab hbc
      simpa using le_trans (of_decide_eq_true hab) (of_decide_eq_true hbc)
    · intro a b
      simpa using le_total a.1.source b.1.source
  have inside := kept.filter (·.1.source == source)
  rw [List.filter_filter] at inside
  simp only [Bool.and_self] at inside
  refine (inside.eq_of_length ?_).symm
  exact ((List.mergeSort_perm entries _).filter _).length_eq.symm

/-- Edges that are given by their positions are sorted by source and then by position. -/
theorem Edge.pairwise_sortBySource (rising : entries.Pairwise fun a b => a.2 < b.2) :
    (sortBySource entries).Pairwise Before := by
  rw [List.pairwise_iff_forall_sublist]
  intro a b pair
  have sorted := pairwise_mergeSort_names (fun entry : Edge × Nat => entry.1.source) entries
  have ordered : a.1.source ≤ b.1.source := List.pairwise_iff_forall_sublist.mp sorted pair
  obtain less | same := lt_or_eq_of_le ordered
  · exact .inl less
  · have pair := pair.filter (·.1.source == a.1.source)
    rw [filter_sortBySource] at pair
    simp only [List.filter_cons, same, beq_self_eq_true, if_true, List.filter_nil] at pair
    exact .inr ⟨same,
      List.pairwise_iff_forall_sublist.mp rising (pair.trans List.filter_sublist)⟩

end Sorting

namespace Plan

/-- The edges into an inlet of a node, with their positions, in order and each once. -/
structure Row (p : Plan) (id inlet : String) (row : List (Edge × Nat)) : Prop where
  sorted : row.Pairwise Edge.Before
  complete : ∀ e k, (e, k) ∈ row ↔ p.edges[k]? = some e ∧ e.target = id ∧ e.inlet = inlet

def rowAt (p : Plan) (id inlet : String) : List (Edge × Nat) :=
  (Edge.sortBySource (p.edges.zipIdx.filter (·.1.target == id))).filter (·.1.inlet == inlet)

variable {p : Plan} {id inlet : String}

theorem row_rowAt (p : Plan) (id inlet : String) : p.Row id inlet (p.rowAt id inlet) := by
  constructor
  · have rising : (p.edges.zipIdx.filter (·.1.target == id)).Pairwise fun a b => a.2 < b.2 := by
      refine List.Pairwise.filter _ (List.pairwise_map.mp ?_)
      rw [List.zipIdx_map_snd]
      exact List.pairwise_lt_range'
    exact (Edge.pairwise_sortBySource _ rising).filter _
  · intro e k
    rw [rowAt, Edge.sortBySource, List.mem_filter, List.mem_mergeSort, List.mem_filter,
      List.mem_zipIdx_iff_getElem?, beq_iff_eq, beq_iff_eq, and_assoc]

theorem map_fst_rowAt (p : Plan) (id inlet : String) :
    (p.rowAt id inlet).map Prod.fst = (p.incoming [id]).filter (·.inlet == inlet) := by
  have edges : (p.edges.zipIdx.filter (·.1.target == id)).map Prod.fst =
      p.edges.filter fun e => [id].contains e.target := by
    have tests : ((·.1.target == id) : Edge × Nat → Bool) =
        (fun e => [id].contains e.target) ∘ Prod.fst := by
      funext entry
      rw [Function.comp_apply, List.contains_cons, List.contains_nil, Bool.or_false]
    rw [tests, ← List.filter_map, List.zipIdx_map_fst]
  have sorted : (Edge.sortBySource (p.edges.zipIdx.filter (·.1.target == id))).map Prod.fst =
      p.incoming [id] := by
    rw [Edge.sortBySource, List.map_mergeSort (s := fun e e' : Edge => e.source ≤ e'.source)
      (fun _ _ _ _ => rfl), edges]
    rfl
  rw [← sorted, List.filter_map]
  rfl

/-! ## Gathering -/

/-- The inputs of a node are the results of the sources of its edges, in the rows of its inlets. -/
structure Gathers (p : Plan) (id : String) (store : Store) (inputs : Inputs) : Prop where
  inlets : ∀ inlet, inlet ∈ inputs.keys ↔ ∃ e ∈ p.edges, e.target = id ∧ e.inlet = inlet
  results : ∀ inlet results, inputs.find? inlet = some results → ∃ row, p.Row id inlet row ∧
    List.Forall₂ (fun entry result => store.find? entry.1.source = some result) row results

variable {store : Store} {edges : List Edge} {inputs out : Inputs}

theorem mem_keys_gather (h : gather store inputs edges = .ok out) (inlet : String) :
    inlet ∈ out.keys ↔ inlet ∈ inputs.keys ∨ ∃ e ∈ edges, e.inlet = inlet := by
  induction edges generalizing inputs with
  | nil =>
      cases h
      simp
  | cons e rest ih =>
      cases found : store.find? e.source with
      | none => simp only [gather, found] at h; cases h
      | some result =>
          simp only [gather, found] at h
          rw [ih h, ← OrderedMap.contains_iff, OrderedMap.contains, OrderedMap.find?_update,
            ← OrderedMap.contains_iff, OrderedMap.contains]
          by_cases here : inlet = e.inlet
          · simp [here]
          · simp [here, Ne.symm here]

theorem found_of_gather (h : gather store inputs edges = .ok out) :
    ∀ e ∈ edges, ∃ result, store.find? e.source = some result := by
  induction edges generalizing inputs with
  | nil => simp
  | cons e rest ih =>
      cases found : store.find? e.source with
      | none => simp only [gather, found] at h; cases h
      | some result =>
          simp only [gather, found] at h
          exact List.forall_mem_cons.mpr ⟨⟨result, found⟩, ih h⟩

/-- A source without a result ends the gathering, and the first one is reported. -/
theorem exists_of_gather_error {fault : Fault} (h : gather store inputs edges = .error fault) :
    ∃ before e after, edges = before ++ e :: after ∧ store.find? e.source = none ∧
      (∀ e' ∈ before, ∃ result, store.find? e'.source = some result) ∧
      fault = .missingKey s!"No result for upstream node '{e.source}'" := by
  induction edges generalizing inputs with
  | nil => cases h
  | cons e rest ih =>
      cases found : store.find? e.source with
      | none =>
          simp only [gather, found] at h
          cases h
          exact ⟨[], e, rest, rfl, found, by simp, rfl⟩
      | some result =>
          simp only [gather, found] at h
          obtain ⟨before, e', after, rfl, missing, earlier, same⟩ := ih h
          exact ⟨e :: before, e', after, rfl, missing,
            List.forall_mem_cons.mpr ⟨⟨result, found⟩, earlier⟩, same⟩

theorem forall₂_filterMap {α β : Type} {f : α → Option β} {items : List α}
    (found : ∀ a ∈ items, ∃ b, f a = some b) :
    List.Forall₂ (fun a b => f a = some b) items (items.filterMap f) := by
  induction items with
  | nil => exact .nil
  | cons a rest ih =>
      obtain ⟨⟨b, here⟩, further⟩ := List.forall_mem_cons.mp found
      rw [List.filterMap_cons_some here]
      exact .cons here (ih further)

theorem found_of_inputsFor (h : p.inputsFor id store = .ok inputs) {e : Edge}
    (member : e ∈ p.edges) (target : e.target = id) :
    ∃ result, store.find? e.source = some result :=
  found_of_gather h e ((mem_incoming p id e).mpr ⟨member, target⟩)

theorem gathers_inputsFor (h : p.inputsFor id store = .ok inputs) :
    p.Gathers id store inputs := by
  constructor
  · intro inlet
    rw [mem_keys_gather h]
    simp only [OrderedMap.keys_empty, List.not_mem_nil, false_or, mem_incoming, and_assoc]
  · intro inlet results held
    have row := row_rowAt p id inlet
    refine ⟨_, row, ?_⟩
    have gathered := results_gather h inlet
    rw [Inputs.results, held, Option.getD_some, Inputs.results_empty, List.nil_append,
      ← map_fst_rowAt, List.filterMap_map] at gathered
    rw [gathered]
    refine forall₂_filterMap fun entry member => ?_
    obtain ⟨listed, target, -⟩ := (row.complete entry.1 entry.2).mp member
    exact found_of_inputsFor h (List.mem_of_getElem? listed) target

/-- Of the sources without a result the least one is reported. -/
theorem exists_of_inputsFor_error {fault : Fault} (h : p.inputsFor id store = .error fault) :
    ∃ e ∈ p.edges, e.target = id ∧ store.find? e.source = none ∧
      fault = .missingKey s!"No result for upstream node '{e.source}'" ∧
      ∀ e' ∈ p.edges, e'.target = id → store.find? e'.source = none → e.source ≤ e'.source := by
  obtain ⟨before, e, after, split, missing, earlier, rfl⟩ := exists_of_gather_error h
  have listed : e ∈ p.incoming [id] := split ▸ List.mem_append_right before List.mem_cons_self
  obtain ⟨member, target⟩ := (mem_incoming p id e).mp listed
  refine ⟨e, member, target, missing, rfl, fun e' member' target' missing' => ?_⟩
  have sorted := pairwise_mergeSort_names Edge.source
    (p.edges.filter fun e => [id].contains e.target)
  have place := (mem_incoming p id e').mpr ⟨member', target'⟩
  change (p.incoming [id]).Pairwise _ at sorted
  rw [split, List.pairwise_append, List.pairwise_cons] at sorted
  rw [split] at place
  cases List.mem_append.mp place with
  | inl inside =>
      obtain ⟨result, found⟩ := earlier e' inside
      cases missing'.symm.trans found
  | inr inside =>
      obtain rfl | inside := List.mem_cons.mp inside
      · exact le_refl _
      · exact sorted.2.1.1 e' inside

end Plan

/-! ## Inlets that take one edge -/

namespace Draft

variable {draft : Draft} {w : Workflow} {id inlet : String} {node : Node}

theorem length_sourcesAt_le_one (valid : draft.validate = .ok w)
    (known : w.nodes.find? id = some node) {port : Inlet}
    (offered : node.kind.inlet? inlet = some port) (single : port.multiple = false) :
    (w.plan.sourcesAt id inlet).length ≤ 1 := by
  obtain ⟨issues, -, rfl⟩ := validate_eq_ok_iff.mp valid
  obtain ⟨nodes, edges⟩ := List.append_eq_nil_iff.mp issues
  obtain ⟨-, bound⟩ := (edgeIssues_accepted_eq_nil_iff nodes).mp edges
  have narrow : inletAt? draft.accepted (id, inlet) = some port := by
    rw [inletAt?, show draft.accepted.find? id = some node from known]
    exact offered
  rw [Plan.length_sourcesAt]
  exact bound _ ⟨port, narrow, single⟩

theorem exists_inlet_of_edge (valid : draft.validate = .ok w)
    (known : w.nodes.find? id = some node) {e : Edge} (member : e ∈ w.edges)
    (target : e.target = id) : ∃ port, node.kind.inlet? e.inlet = some port := by
  obtain ⟨issues, -, rfl⟩ := validate_eq_ok_iff.mp valid
  obtain ⟨nodes, edges⟩ := List.append_eq_nil_iff.mp issues
  obtain ⟨port, offered⟩ := (((edgeIssues_accepted_eq_nil_iff nodes).mp edges).1 e member).inlet
  rw [inletAt?, Edge.feeds, target, show draft.accepted.find? id = some node from known] at offered
  exact ⟨port, offered⟩

/-- What comes to an inlet is offered by the node, and one result alone when that takes one edge. -/
theorem exists_inlet_of_gathered (valid : draft.validate = .ok w)
    (known : w.nodes.find? id = some node) {store : Store} {inputs : Inputs}
    {results : List NodeResult} (gathered : w.plan.inputsFor id store = .ok inputs)
    (held : inputs.find? inlet = some results) :
    ∃ port, node.kind.inlet? inlet = some port ∧
      (port.multiple = false → ∃ result, results = [result]) := by
  have gathers := Plan.gathers_inputsFor gathered
  obtain ⟨e, member, target, rfl⟩ :=
    (gathers.inlets inlet).mp (OrderedMap.mem_keys_of_find? held)
  obtain ⟨port, offered⟩ := exists_inlet_of_edge valid known member target
  refine ⟨port, offered, fun single => ?_⟩
  have most : results.length ≤ 1 := by
    have sources := Plan.results_inputsFor gathered e.inlet
    rw [Inputs.results, held, Option.getD_some] at sources
    rw [sources]
    exact (List.length_filterMap_le _ _).trans (length_sourcesAt_le_one valid known offered single)
  have least : 0 < results.length := by
    obtain ⟨row, isRow, brought⟩ := gathers.results _ results held
    obtain ⟨k, here⟩ := List.getElem?_of_mem member
    rw [← brought.length_eq]
    exact List.length_pos_of_mem ((isRow.complete e k).mpr ⟨here, target, rfl⟩)
  exact List.length_eq_one_iff.mp (Nat.le_antisymm most least)

/-- A node of a graph that is taken is fed along its edges when all their sources have results, and
an inlet that takes one edge gets one result. Otherwise the least source without a result is
reported, and nothing else ever is. -/
theorem fed_or_missing (valid : draft.validate = .ok w) (known : w.nodes.find? id = some node)
    (store : Store) :
    ((∃ key, w.plan.inputsFor id store = .error (.missingKey key)) ↔
      ∃ e ∈ w.edges, e.target = id ∧ store.find? e.source = none) ∧
    (∀ fault, w.plan.inputsFor id store = .error fault →
      ∃ e ∈ w.edges, e.target = id ∧ store.find? e.source = none ∧
        fault = .missingKey s!"No result for upstream node '{e.source}'" ∧
        ∀ e' ∈ w.edges, e'.target = id → store.find? e'.source = none → e.source ≤ e'.source) ∧
    ((¬ ∃ e ∈ w.edges, e.target = id ∧ store.find? e.source = none) →
      ∃ inputs, w.plan.inputsFor id store = .ok inputs ∧ w.plan.Gathers id store inputs ∧
        ∀ inlet results, inputs.find? inlet = some results →
          ∃ port, node.kind.inlet? inlet = some port ∧
            (port.multiple = false → ∃ result, results = [result])) := by
  refine ⟨⟨?_, fun missing => ?_⟩, fun _ => Plan.exists_of_inputsFor_error, fun complete => ?_⟩
  · rintro ⟨key, refused⟩
    obtain ⟨e, member, target, missing, -⟩ := Plan.exists_of_inputsFor_error refused
    exact ⟨e, member, target, missing⟩
  · cases outcome : w.plan.inputsFor id store with
    | error fault =>
        obtain ⟨e, -, -, -, rfl, -⟩ := Plan.exists_of_inputsFor_error outcome
        exact ⟨_, rfl⟩
    | ok inputs =>
        obtain ⟨e, member, target, missing⟩ := missing
        obtain ⟨result, found⟩ := Plan.found_of_inputsFor outcome member target
        cases missing.symm.trans found
  · cases outcome : w.plan.inputsFor id store with
    | error fault =>
        obtain ⟨e, member, target, missing, -⟩ := Plan.exists_of_inputsFor_error outcome
        exact absurd ⟨e, member, target, missing⟩ complete
    | ok inputs =>
        exact ⟨inputs, rfl, Plan.gathers_inputsFor outcome,
          fun _ _ held => exists_inlet_of_gathered valid known outcome held⟩

/-- A model that is watched along two edges. -/
def watchedTwice : Draft :=
  { watched with edges := List.replicate 2 ⟨"model", "view", mainOutlet, mainInlet⟩ }

theorem validate_watchedTwice :
    watchedTwice.validate = .ok ⟨Workflow.watched.nodes, watchedTwice.edges⟩ := by
  have accepted : watchedTwice.accepted = Workflow.watched.nodes :=
    accepted_of_checks (by decide) check_watched
  have clean : watchedTwice.issues = [] := by
    rw [issues, List.append_eq_nil_iff, nodeIssues_eq_nil_iff]
    exact ⟨⟨by decide, List.flatMap_eq_nil_iff.mp (by decide +kernel)⟩, by decide +kernel⟩
  refine validate_eq_ok_iff.mpr ⟨clean, ?_, by rw [accepted]⟩
  rw [digraph, accepted]
  cbv

/-- Both edges stand in the row of the inlet, so it gets the result of the model twice. -/
theorem fed_or_missing_watchedTwice : ∃ w e, watchedTwice.validate = .ok w ∧
    (∃ key, w.plan.inputsFor "view" .empty = .error (.missingKey key)) ∧
    ∃ inputs results row,
      w.plan.inputsFor "view" (.ofList [("model", .value .null)]) = .ok inputs ∧
      inputs.find? mainInlet = some results ∧ w.plan.Row "view" mainInlet row ∧
      row.length = results.length ∧ (e, 0) ∈ row ∧ (e, 1) ∈ row := by
  have known : Workflow.watched.nodes.find? "view" =
      some ⟨"view", .watch ⟨.table, false⟩, none⟩ := rfl
  have fed := fed_or_missing validate_watchedTwice known
  have complete : ¬ ∃ e ∈ watchedTwice.edges, e.target = "view" ∧
      OrderedMap.find? (.ofList [("model", .value .null)] : Store) e.source = none := by
    rintro ⟨e, member, -, missing⟩
    obtain ⟨-, rfl⟩ := List.mem_replicate.mp member
    cases missing
  obtain ⟨inputs, gathered, gathers, -⟩ := (fed _).2.2 complete
  have edges (k : Nat) (here : k < 2) : watchedTwice.edges[k]? =
      some ⟨"model", "view", mainOutlet, mainInlet⟩ := List.getElem?_replicate_of_lt here
  have listed := List.mem_of_getElem? (edges 0 (by decide))
  have held := (gathers.inlets mainInlet).mpr ⟨_, listed, rfl, rfl⟩
  obtain ⟨results, held⟩ := OrderedMap.exists_find? held
  obtain ⟨row, isRow, brought⟩ := gathers.results _ _ held
  exact ⟨_, _, validate_watchedTwice, (fed .empty).1.mpr ⟨_, listed, rfl, rfl⟩, inputs, results,
    row, gathered, held, isRow, brought.length_eq,
    (isRow.complete _ 0).mpr ⟨edges 0 (by decide), rfl, rfl⟩,
    (isRow.complete _ 1).mpr ⟨edges 1 (by decide), rfl, rfl⟩⟩

end Draft

end BuildingWorkflow
