import BuildingWorkflow.Proofs.Graph.Validation
import BuildingWorkflow.Proofs.Run.Schedule

/-!
What no run violates.

Tasks take turns in any order, evaluations may be answered in any way, given up or never answered,
and a run may be cancelled at any time. The engine itself never fails on a graph that is taken.
-/
namespace BuildingWorkflow

/-- A node that has no result is marked as cancelled. -/
def Store.mark (store : Store) (id : String) : Except Fault Store :=
  if store.contains id then .ok store else store.record id .cancelled

namespace RunState

/-- Marking what is left never meets a node that has a result. -/
theorem foldlM_mark (ids : List String) (store : Store) :
    ids.foldlM Store.mark store = .ok (ids.foldl
      (fun store id => if store.contains id then store else store.insert id .cancelled) store) := by
  induction ids generalizing store with
  | nil => rfl
  | cons id rest ih =>
      rw [List.foldlM_cons, List.foldl_cons]
      have marked : store.mark id =
          .ok (if store.contains id then store else store.insert id .cancelled) := by
        simp only [Store.mark, Store.record]
        split <;> rfl
      rw [marked]
      exact ih _

structure Safe (engine : Engine) (p : Plan) (s : RunState) : Prop where
  /-- No evaluation is begun twice. -/
  once : (s.begun.map Prod.fst).Nodup
  /-- The predecessors of what was begun have values, and had them before it was begun. -/
  fed : ∀ id inputs, (id, inputs) ∈ s.begun → ∀ feeder ∈ p.predecessors id, s.store.ok feeder
  fedBefore : ∀ turn s', s.take engine p turn = some s' → ∀ id inputs, (id, inputs) ∈ s'.begun →
    (id, inputs) ∈ s.begun ∨ ∀ feeder ∈ p.predecessors id, s.store.ok feeder
  /-- No result was refused and no input was missing, nor will one be with the next turn. -/
  faultless : s.fault = none
  faultlessNext : ∀ turn s', s.take engine p turn = some s' → s'.fault = none
  /-- There is one result for each task that is over. -/
  recorded : s.store.keys = s.ended
  /-- Evaluations that were begun make no markers, whoever is asked. -/
  valued : ∀ id inputs node, (id, inputs) ∈ s.begun → p.nodes.find? id = some node →
    ∀ help result, node.options.evaluate inputs help = .value result → result.isError = false
  /-- So the nodes that were begun have values or failed. -/
  failed : ∀ id ∈ s.begun.map Prod.fst, ∀ result, s.store.find? id = some result →
    result.isError → ∃ error errorType, result = .failed error errorType
  /-- A run that is cancelled now is reported. -/
  marked : p.order.foldlM Store.mark s.store = .ok (cancelRest p s.store)
  unfaulty : ∀ cancellation fault, s.ending p cancellation ≠ .faulty fault
  /-- So is a run that nothing can move any more. -/
  reported : 0 < engine.slots → s.AtRest engine p →
    ∀ cancellation, s.ending p cancellation = .reported (s.finished p)

variable {engine : Engine} {p : Plan} {s : RunState}

theorem ending_of_faultless (faultless : s.fault = none) (cancellation : Cancellation) :
    s.ending p cancellation =
      if s.complete p then .reported (s.finished p)
      else if cancellation = .atRest then .reported (s.stopped p)
      else .endless := by
  rw [ending, faultless]

theorem begun_of_step {turn : Turn} {s' : RunState} {id : String} {inputs : Inputs}
    {ends : Account} (sound : s.Sound p ends) (step : Step engine p s turn s')
    (member : (id, inputs) ∈ s'.begun) :
    (id, inputs) ∈ s.begun ∨ ∀ feeder ∈ p.predecessors id, s.store.ok feeder := by
  cases step with
  | pass _ _ => exact .inl member
  | queue _ _ => exact .inl member
  | begin _ _ _ queued _ =>
      cases List.mem_append.mp member with
      | inl old => exact .inl old
      | inr new =>
          cases List.mem_singleton.mp new
          exact .inr (sound.queuedFed id inputs queued).clear
  | leave _ _ _ _ => exact .inl member

/-- When nothing can move any more, even if everybody answers, all tasks are over. -/
theorem complete_of_atRest {ends : Account} (o : p.Ordered) (sound : s.Sound p ends)
    (slots : 0 < engine.slots) (rest : s.AtRest engine p) : s.complete p := by
  -- An engine without models stands in for answers: at rest, nobody can move this one either.
  let answered : Engine := { engine with help := Engine.unprovided.help }
  have restAnswered : ∀ id, advance answered p s id = none := fun id =>
    rest (.task id Engine.unprovided.help)
  have recorded := sound.recorded_of_rest o (show 0 < answered.slots from slots)
    Engine.answering_unprovided restAnswered
  exact (complete_iff o).mpr fun id known => sound.mem_keys_iff.mp (recorded id known)

theorem safe_of_play (o : p.Ordered) {turns : List Turn}
    (played : play engine p .initial turns = some s) : s.Safe engine p := by
  have sound := sound_of_play played
  have next (turn : Turn) (s' : RunState) (taken : s.take engine p turn = some s') :
      s'.Sound p engine.anyEnd :=
    sound.step (step_of_take sound.toTidy taken) fun _ _ _ _ answer => ⟨turn, answer⟩
  refine {
    once := sound.once
    fed := fun id inputs begun => (sound.begunFed id inputs begun).2.clear
    fedBefore := fun turn s' taken id inputs member =>
      begun_of_step sound (step_of_take sound.toTidy taken) member
    faultless := sound.faultless
    faultlessNext := fun turn s' taken => (next turn s' taken).faultless
    recorded := sound.keys
    valued := fun id inputs node begun _ help result evaluated =>
      NodeOptions.isError_of_evaluate (sound.begunFed id inputs begun).2.clean evaluated
    failed := ?_
    marked := foldlM_mark p.order s.store
    unfaulty := ?_
    reported := ?_ }
  · intro id member result found isError
    obtain ⟨⟨id, inputs⟩, begun, rfl⟩ := List.mem_map.mp member
    obtain ⟨-, fed⟩ := sound.begunFed id inputs begun
    obtain (valued | failed) | ⟨obstacle, -, blocked⟩ :=
      (sound.justified.earned id result found).own_or_blocked
    · rw [isError] at valued
      cases valued
    · exact failed
    · rw [obstacle?_eq_none_iff.mpr fed.clear] at blocked
      cases blocked
  · intro cancellation fault
    rw [ending_of_faultless sound.faultless]
    split
    · exact nofun
    · split
      · exact nofun
      · exact nofun
  · intro slots rest cancellation
    rw [ending_of_faultless sound.faultless, if_pos (complete_of_atRest o sound slots rest)]

end RunState

namespace Engine

/-- A run of the engine comes to a safe state, and it is reported unless it waits for ever. -/
theorem exists_ending (engine : Engine) {p : Plan} (o : p.Ordered) (cancellation : Cancellation) :
    ∃ ending s, engine.run p cancellation = (ending, s) ∧ s.Safe engine p ∧
      ((∃ report, ending = .reported report) ∨
        ending = .endless ∧ cancellation = .never ∧
          ¬ (0 < engine.slots ∧ engine.help.Answering)) := by
  by_cases started : cancellation = .before
  · have played : RunState.play engine p .initial [] = some .initial := rfl
    exact ⟨_, _, if_pos started, RunState.safe_of_play o played, .inl ⟨_, rfl⟩⟩
  · obtain ⟨s, ⟨ids, played⟩, rest, run⟩ := engine.exists_run o started
    have safe := RunState.safe_of_play o played
    refine ⟨_, s, run, safe, ?_⟩
    rw [RunState.ending_of_faultless safe.faultless]
    by_cases complete : s.complete p
    · exact .inl ⟨_, if_pos complete⟩
    · rw [if_neg complete]
      cases cancellation with
      | before => exact absurd rfl started
      | atRest => exact .inl ⟨_, rfl⟩
      | never =>
          refine .inr ⟨rfl, rfl, fun ⟨slots, answering⟩ => complete ?_⟩
          have sound := RunState.sound_of_turns played
          refine (RunState.complete_iff o).mpr fun id known => ?_
          exact sound.mem_keys_iff.mp (sound.recorded_of_rest o slots answering rest id known)

/-- A graph that is not taken has its issues reported and nothing of it is begun. Every run of one
that is taken is safe in any order of turns, and the engine reports it and has no fault of its
own. -/
theorem runs_safe (engine : Engine) (draft : Draft) :
    (∀ fault, draft.validate = .error fault →
      "GraphValidationError" ∈ fault.names ∧
        (∃ issues, fault.issues? = some issues ∧ issues ≠ []) ∧
        ∀ cancellation, engine.runDraft draft cancellation = .error fault) ∧
    (∀ w, draft.validate = .ok w →
      (∀ turns s, RunState.play engine w.plan .initial turns = some s → s.Safe engine w.plan) ∧
        ∀ cancellation, ∃ ending s, engine.runDraft draft cancellation = .ok (ending, s) ∧
          s.Safe engine w.plan ∧
          ((∃ report, ending = .reported report) ∨
            ending = .endless ∧ cancellation = .never ∧
              ¬ (0 < engine.slots ∧ engine.help.Answering))) := by
  refine ⟨fun fault refused => ?_,
    fun w valid => ⟨fun turns s played => ?_, fun cancellation => ?_⟩⟩
  · obtain ⟨issues, listed, some⟩ := Draft.issues_of_validate refused
    refine ⟨Fault.name_of_issues listed, ⟨issues, listed, some⟩, fun cancellation => ?_⟩
    rw [runDraft, refused]
    rfl
  · exact RunState.safe_of_play (Draft.ordered_of_validate valid) played
  · obtain ⟨ending, s, run, rest⟩ :=
      engine.exists_ending (Draft.ordered_of_validate valid) cancellation
    refine ⟨ending, s, ?_, rest⟩
    rw [runDraft, valid, ← run]
    rfl

theorem runs_safe_watched : ∃ ids s,
    RunState.play .unprovided Workflow.watched.plan .initial (unprovided.turns ids) = some s ∧
      "view" ∈ s.ended ∧ s.Safe .unprovided Workflow.watched.plan := by
  have o := Draft.ordered_of_validate Draft.validate_watched
  obtain ⟨ids, s, played, rest⟩ := RunState.exists_rest unprovided o
  have safe := ((runs_safe unprovided .watched).2 _ Draft.validate_watched).1 _ s played
  have recorded := (RunState.sound_of_turns played).recorded_of_rest o (by decide)
    answering_unprovided rest "view" (by decide)
  exact ⟨ids, s, played, safe.recorded ▸ recorded, safe⟩

end Engine

end BuildingWorkflow
