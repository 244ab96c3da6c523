import BuildingWorkflow.Proofs.Graph.Validation
import BuildingWorkflow.Proofs.Run.InOrder
import BuildingWorkflow.Proofs.Run.Schedule

/-!
Results in any order of turns.

Tasks may take their turns in any order, through any number of slots. When whoever is asked answers
by the request alone, the results are those of the nodes taken one after another.
-/
namespace BuildingWorkflow

theorem Plan.find?_inOrder_watched :
    (Workflow.watched.plan.inOrder Engine.unprovided.help).find? "view" =
      some (.blocked "model") := by
  have order : Workflow.watched.plan.order = ["model", "view"] := by decide +kernel
  have feedsModel : Workflow.watched.plan.predecessors "model" = [] := by cbv
  have feedsView : Workflow.watched.plan.predecessors "view" = ["model"] := by cbv
  have inputs : Workflow.watched.plan.inputsFor "model" .empty = .ok .empty := by cbv
  have model : Workflow.watched.plan.resultAfter Engine.unprovided.help .empty "model" =
      some (failureOf (.modelNotFound none)) := by
    simp only [resultAfter, feedsModel, List.filter_nil, leastName?, inputs]
    rfl
  let failed : Store := OrderedMap.empty.insert "model" (failureOf (.modelNotFound none))
  have view : Workflow.watched.plan.resultAfter Engine.unprovided.help failed "view" =
      some (.blocked "model") := by
    have bad : failed.ok "model" = false := rfl
    simp only [resultAfter, feedsView, List.filter_cons, bad]
    rfl
  simp only [inOrder, order, List.foldl_cons, List.foldl_nil, evaluateNext, model]
  rw [view, OrderedMap.find?_insert, if_pos rfl]

namespace RunState

/-- Turns of tasks come to an end in any order, and when none is left to take, every node has one
result: the same as when the nodes are evaluated one after another. -/
theorem results_of_any_order {draft : Draft} {w : Workflow} (valid : draft.validate = .ok w)
    {engine : Engine} (slots : 0 < engine.slots) (answering : engine.help.Answering)
    (untimed : engine.timeout = none) {ids : List String} {s : RunState}
    (played : play engine w.plan .initial (engine.turns ids) = some s) :
    ids.length ≤ 3 * w.nodes.size ∧
      ((∀ id, s.take engine w.plan (.task id engine.help) = none) →
        s.fault = none ∧ s.store.keys.Perm w.nodes.keys ∧
          ∀ id, s.store.find? id = (w.plan.inOrder engine.help).find? id) := by
  have o := Draft.ordered_of_validate valid
  have sound := sound_of_turns played
  refine ⟨?_, fun rest => ⟨sound.faultless, ?_, fun id => ?_⟩⟩
  · have bound := (sound_initial w.plan _).length_le (engine.accounted_turns w.plan ids) played
    rwa [Engine.turns, List.length_map] at bound
  · exact sound.justified.keys_perm (sound.recorded_of_rest o slots answering rest)
  · have justified := sound.justified
    rw [Engine.ownEnd_of_untimed untimed] at justified
    exact find?_eq_inOrder o answering justified (sound.recorded_of_rest o slots answering rest) id

theorem results_watched : ∃ ids s,
    play .unprovided Workflow.watched.plan .initial (Engine.unprovided.turns ids) = some s ∧
      ids.length ≤ 6 ∧ s.store.keys.Perm ["model", "view"] ∧
      s.store.find? "view" = some (.blocked "model") := by
  obtain ⟨ids, s, played, rest⟩ :=
    exists_rest .unprovided (Draft.ordered_of_validate Draft.validate_watched)
  obtain ⟨bound, atEnd⟩ := results_of_any_order Draft.validate_watched (by decide)
    Engine.answering_unprovided rfl played
  obtain ⟨-, keys, results⟩ := atEnd rest
  exact ⟨ids, s, played, bound, keys, (results "view").trans Plan.find?_inOrder_watched⟩

end RunState

end BuildingWorkflow
