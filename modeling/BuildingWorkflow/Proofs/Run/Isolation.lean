import BuildingWorkflow.Proofs.Graph.Branch
import BuildingWorkflow.Proofs.Run.Confluence

/-!
Branches run on their own.

The results in a branch rest on results in the branch alone. Whatever happens outside of it, be it
failures, faults or anything else that is answered there, does not show inside: the results are
those of a run of the branch by itself.
-/
namespace BuildingWorkflow

namespace Plan.Branch

variable {branch p : Plan} {inside : String → Bool} {id : String} {store : Store}
  (h : branch.Branch p inside)

include h

section Feeding

variable (isInside : inside id)

include isInside

theorem predecessors_eq : branch.predecessors id = p.predecessors id := by
  rw [predecessors, predecessors, h.edges id isInside]

theorem incoming_eq : branch.incoming [id] = p.incoming [id] := by
  have edges := h.edges id isInside
  simp only [incoming, List.contains_cons, List.contains_nil, Bool.or_false]
  rw [edges]

theorem inputsFor_eq : branch.inputsFor id store = p.inputsFor id store := by
  rw [inputsFor, inputsFor, h.incoming_eq isInside]

theorem obstacle?_eq : RunState.obstacle? branch store id = RunState.obstacle? p store id := by
  rw [RunState.obstacle?, RunState.obstacle?, h.predecessors_eq isInside]

theorem find?_eq : branch.nodes.find? id = p.nodes.find? id := by
  rw [h.nodes, if_pos isInside]

theorem fed {inputs : Inputs} (fed : Fed p store id inputs) : Fed branch store id inputs where
  clear := h.predecessors_eq isInside ▸ fed.clear
  gathered := (h.inputsFor_eq isInside).trans fed.gathered

theorem earned {ends ends' : Account} (sub : ∀ node, p.nodes.find? id = some node →
    ∀ inputs result, ends node inputs result → ends' node inputs result) {result : NodeResult}
    (earned : Earned p ends store id result) : Earned branch ends' store id result := by
  cases earned with
  | blocked found => exact .blocked ((h.obstacle?_eq isInside).trans found)
  | evaluated known fed ended =>
      exact .evaluated ((h.find?_eq isInside).trans known) (h.fed isInside fed)
        (sub _ known _ _ ended)

end Feeding

/-- The results of a run of the whole rest, as far as the branch goes, on results in the branch. -/
theorem justified {ends ends' : Account} (sub : ∀ id, inside id → ∀ node,
    p.nodes.find? id = some node → ∀ inputs result, ends node inputs result →
      ends' node inputs result) (justified : Justified p ends store) :
    Justified branch ends' (store.filterKeys inside) := by
  have kept {id : String} (member : id ∈ (store.filterKeys inside).keys) :
      id ∈ store.keys ∧ inside id := by
    rwa [OrderedMap.keys_filterKeys, List.mem_filter] at member
  refine ⟨fun id member => ?_, fun id member feeder feeds => ?_, fun id result found => ?_⟩
  · obtain ⟨recorded, isInside⟩ := kept member
    obtain ⟨node, isNode⟩ := OrderedMap.exists_find? (justified.known id recorded)
    exact OrderedMap.mem_keys_of_find? ((h.find?_eq isInside).trans isNode)
  · obtain ⟨recorded, isInside⟩ := kept member
    rw [h.predecessors_eq isInside] at feeds
    rw [OrderedMap.keys_filterKeys, List.mem_filter]
    exact ⟨justified.closed id recorded feeder feeds, h.closed id isInside feeder feeds⟩
  · rw [OrderedMap.find?_filterKeys, Option.ite_none_right_eq_some] at found
    obtain ⟨isInside, found⟩ := found
    refine (h.earned isInside (sub id isInside) (justified.earned id result found)).congr ?_
    intro feeder feeds
    rw [h.predecessors_eq isInside] at feeds
    rw [OrderedMap.find?_filterKeys, if_pos (h.closed id isInside feeder feeds)]

end Plan.Branch

namespace Engine

/-- In the branch the collaborators answer by the request alone, and no clock runs out. Outside of
it they may answer as they like. -/
def LoyalIn (engine : Engine) (inside : String → Bool) (turns : List Turn) : Prop :=
  ∀ turn ∈ turns, inside turn.id → turn = .task turn.id engine.help

/-- The ends of evaluations when nothing is known of those outside of a branch. -/
def ownEndIn (engine : Engine) (inside : String → Bool) : Account := fun node inputs result =>
  inside node.id → engine.ownEnd node inputs result

theorem LoyalIn.accounted {engine : Engine} {inside : String → Bool} {turns : List Turn} {p : Plan}
    (named : ∀ id node, p.nodes.find? id = some node → node.id = id)
    (loyal : engine.LoyalIn inside turns) : engine.Accounted p (engine.ownEndIn inside) turns := by
  intro turn member node found inputs result answer isInside
  rw [named _ _ found] at isInside
  rw [loyal turn member isInside] at answer
  exact answer

theorem loyalIn_turns (engine : Engine) (inside : String → Bool) (ids : List String) :
    engine.LoyalIn inside (engine.turns ids) := by
  intro turn member _
  obtain ⟨id, -, rfl⟩ := List.mem_map.mp member
  rfl

end Engine

namespace RunState

/-- A branch of a graph that is taken is taken by itself. Wherever a run of the branch and one of
the whole graph, in which anything may happen outside of the branch, both have results of a node in
it, they are the same. When both runs have come to their end, all nodes of the branch have them. -/
theorem results_of_branch {draft : Draft} {w : Workflow} (valid : draft.validate = .ok w)
    {inside : String → Bool} (closed : ∀ e ∈ draft.edges, inside e.target → inside e.source) :
    ∃ branch, (draft.restrict inside).validate = .ok branch ∧
      branch.nodes.keys = w.nodes.keys.filter inside ∧
      ∀ (engine : Engine) (turns : List Turn) (ids : List String) (s s' : RunState),
        engine.LoyalIn inside turns → play engine w.plan .initial turns = some s →
        play engine branch.plan .initial (engine.turns ids) = some s' →
        (∀ id result result', inside id → s.store.find? id = some result →
          s'.store.find? id = some result' → result' = result) ∧
        (0 < engine.slots → engine.help.Answering →
          (∀ id, s.take engine w.plan (.task id engine.help) = none) →
          (∀ id, s'.take engine branch.plan (.task id engine.help) = none) →
          s'.store.keys.Perm branch.nodes.keys ∧
            ∀ id, inside id → s'.store.find? id = s.store.find? id) := by
  obtain ⟨branch, valid'⟩ := Draft.exists_validate_restrict valid inside
  have part := Draft.branch_of_validate valid valid' closed
  have keys : branch.nodes.keys = w.nodes.keys.filter inside := by
    rw [Draft.validate_keys valid', Draft.validate_keys valid, Draft.ids_restrict]
  refine ⟨branch, valid', keys, fun engine turns ids s s' loyal played played' => ?_⟩
  have o := Draft.ordered_of_validate valid
  have o' := Draft.ordered_of_validate valid'
  have named (id : String) (node : Node) : w.plan.nodes.find? id = some node → node.id = id :=
    Draft.id_of_validate valid
  have sound := (sound_initial w.plan _).play (loyal.accounted named) played
  have sound' := sound_of_turns played'
  have seen : Justified branch.plan engine.ownEnd (s.store.filterKeys inside) := by
    refine part.justified (fun id isInside node found inputs result ended => ?_) sound.justified
    exact ended (by rwa [named id node found])
  have look (id : String) (isInside : inside id) :
      (s.store.filterKeys inside).find? id = s.store.find? id := by
    rw [OrderedMap.find?_filterKeys, if_pos isInside]
  refine ⟨fun id result result' isInside found found' => ?_,
    fun slots answering rest rest' => ⟨?_, fun id isInside => ?_⟩⟩
  · exact sound'.justified.agree o' engine.ownEnd_functional seen id result' result found'
      ((look id isInside).trans found)
  · exact sound'.justified.keys_perm (sound'.recorded_of_rest o' slots answering rest')
  · rw [← look id isInside]
    refine sound'.justified.find?_eq o' engine.ownEnd_functional seen
      (sound'.recorded_of_rest o' slots answering rest') (fun other known => ?_) id
    obtain ⟨isNode, isInside⟩ := List.mem_filter.mp (keys ▸ known)
    rw [OrderedMap.keys_filterKeys, List.mem_filter]
    exact ⟨sound.recorded_of_rest o slots answering rest other isNode, isInside⟩

theorem results_of_branch_watched : ∃ branch ids ids' s s',
    (Draft.watched.restrict (· == "model")).validate = .ok branch ∧
      play .unprovided Workflow.watched.plan .initial (Engine.unprovided.turns ids) = some s ∧
      play .unprovided branch.plan .initial (Engine.unprovided.turns ids') = some s' ∧
      s'.store.keys.Perm ["model"] ∧ s'.store.find? "model" = s.store.find? "model" := by
  let inside : String → Bool := (· == "model")
  have closed : ∀ e ∈ Draft.watched.edges, inside e.target → inside e.source := by decide
  obtain ⟨branch, valid', keys, alike⟩ := results_of_branch Draft.validate_watched closed
  obtain ⟨ids, s, played, rest⟩ :=
    exists_rest .unprovided (Draft.ordered_of_validate Draft.validate_watched)
  obtain ⟨ids', s', played', rest'⟩ :=
    exists_rest .unprovided (Draft.ordered_of_validate valid')
  obtain ⟨-, atEnd⟩ := alike .unprovided _ ids' s s' (Engine.loyalIn_turns _ _ ids) played played'
  obtain ⟨all, same⟩ := atEnd (by decide) Engine.answering_unprovided rest rest'
  have keys : branch.nodes.keys = ["model"] := keys.trans (by decide)
  exact ⟨branch, ids, ids', s, s', valid', played, played', keys ▸ all, same "model" rfl⟩

end RunState

end BuildingWorkflow
