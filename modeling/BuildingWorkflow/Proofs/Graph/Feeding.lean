import BuildingWorkflow.Graph.Plan
import BuildingWorkflow.Proofs.Text.Names

/-!
What feeds a node.

Feeding a node succeeds when every predecessor has a result, and it depends on nothing in the store
but the results of the predecessors.
-/
namespace BuildingWorkflow

@[simp] theorem Inputs.results_empty (inlet : String) :
    Inputs.results (.empty : Inputs) inlet = [] := rfl

theorem Inputs.results_update (inputs : Inputs) (name inlet : String) (result : NodeResult) :
    Inputs.results (inputs.update name [] (· ++ [result])) inlet =
      inputs.results inlet ++ if name = inlet then [result] else [] := by
  by_cases h : inlet = name
  · simp [Inputs.results, OrderedMap.update, h]
  · simp [Inputs.results, OrderedMap.update, h, Ne.symm h]

namespace Plan

/-- An edge leads from one node to the other. -/
def Feeds (p : Plan) (feeder id : String) : Prop := feeder ∈ p.predecessors id

theorem mem_predecessors (p : Plan) (feeder id : String) :
    feeder ∈ p.predecessors id ↔ ∃ e ∈ p.edges, e.source = feeder ∧ e.target = id := by
  simp only [predecessors, mem_sortedNames, List.mem_map, List.mem_filter, beq_iff_eq]
  constructor
  · rintro ⟨e, ⟨member, target⟩, source⟩
    exact ⟨e, member, source, target⟩
  · rintro ⟨e, member, source, target⟩
    exact ⟨e, ⟨member, target⟩, source⟩

theorem mem_incoming (p : Plan) (id : String) (e : Edge) :
    e ∈ p.incoming [id] ↔ e ∈ p.edges ∧ e.target = id := by
  simp [incoming]

theorem source_mem_predecessors {p : Plan} {id : String} {e : Edge} (h : e ∈ p.incoming [id]) :
    e.source ∈ p.predecessors id := by
  obtain ⟨member, target⟩ := (mem_incoming p id e).mp h
  exact (mem_predecessors p e.source id).mpr ⟨e, member, rfl, target⟩

theorem exists_gather {store : Store} {edges : List Edge} (inputs : Inputs)
    (h : ∀ e ∈ edges, e.source ∈ store.keys) : ∃ out, gather store inputs edges = .ok out := by
  induction edges generalizing inputs with
  | nil => exact ⟨inputs, rfl⟩
  | cons e rest ih =>
      obtain ⟨result, found⟩ := OrderedMap.exists_find? (h e List.mem_cons_self)
      simp only [gather, found]
      exact ih _ fun e' member => h e' (List.mem_cons_of_mem _ member)

theorem gather_congr {store store' : Store} {edges : List Edge} (inputs : Inputs)
    (h : ∀ e ∈ edges, store.find? e.source = store'.find? e.source) :
    gather store inputs edges = gather store' inputs edges := by
  induction edges generalizing inputs with
  | nil => rfl
  | cons e rest ih =>
      simp only [gather, h e List.mem_cons_self]
      split
      · rfl
      · exact ih _ fun e' member => h e' (List.mem_cons_of_mem _ member)

/-- An inlet gets one result for each edge into it, in the order of the edges. -/
theorem results_gather {store : Store} {edges : List Edge} {inputs out : Inputs}
    (h : gather store inputs edges = .ok out) (inlet : String) :
    out.results inlet = inputs.results inlet ++
      (edges.filter (·.inlet == inlet)).filterMap fun e => store.find? e.source := by
  induction edges generalizing inputs with
  | nil =>
      rw [gather, Except.ok.injEq] at h
      simp [h]
  | cons e rest ih =>
      cases found : store.find? e.source with
      | none => simp only [gather, found] at h; cases h
      | some result =>
          simp only [gather, found] at h
          rw [ih h, Inputs.results_update, List.append_assoc]
          by_cases here : e.inlet = inlet
          · simp [here, found]
          · simp [here]

variable {p : Plan} {id : String} {store store' : Store}

theorem exists_inputsFor (h : ∀ feeder ∈ p.predecessors id, feeder ∈ store.keys) :
    ∃ inputs, p.inputsFor id store = .ok inputs :=
  exists_gather _ fun _ member => h _ (source_mem_predecessors member)

theorem inputsFor_congr
    (h : ∀ feeder ∈ p.predecessors id, store.find? feeder = store'.find? feeder) :
    p.inputsFor id store = p.inputsFor id store' :=
  gather_congr _ fun _ member => h _ (source_mem_predecessors member)

theorem mem_results_inputsFor {inputs : Inputs} (h : p.inputsFor id store = .ok inputs)
    {inlet : String} {result : NodeResult} (member : result ∈ inputs.results inlet) :
    ∃ feeder ∈ p.predecessors id, store.find? feeder = some result := by
  rw [results_gather h, Inputs.results_empty, List.nil_append, List.mem_filterMap] at member
  obtain ⟨e, inside, found⟩ := member
  exact ⟨e.source, source_mem_predecessors (List.mem_of_mem_filter inside), found⟩

end Plan

end BuildingWorkflow
