import BuildingWorkflow.Proofs.Graph.Validation
import BuildingWorkflow.Proofs.Run.Schedule

/-!
Slots are never short for good.

A task asks for a slot only when all that it waits for is over, and it gives the slot back without
waiting for other tasks. So no more evaluations go on than there are slots, and a run is never
stuck, even with a single slot: some evaluation goes on, or some task can take a turn.
-/
namespace BuildingWorkflow
namespace RunState

variable {engine : Engine} {p : Plan} {ends : Account} {s s' t : RunState}

/-! ## Slots that are taken -/

theorem Step.active_size_le {turn : Turn} (step : Step engine p s turn s')
    (within : s.active.size ≤ engine.slots) : s'.active.size ≤ engine.slots := by
  cases step with
  | pass _ _ => exact within
  | queue _ _ => exact within
  | begin _ _ notActive _ room =>
      have more := OrderedMap.size_insert ((OrderedMap.find?_eq_none_iff _ _).mp notActive)
      simp only [RunState.begin, more]
      omega
  | leave _ _ active _ =>
      have less := OrderedMap.size_erase (OrderedMap.mem_keys_of_find? active)
      simp only [concluded]
      omega

theorem active_size_le_of_play {turns : List Turn}
    (played : play engine p .initial turns = some s) : s.active.size ≤ engine.slots := by
  have start : initial.active.size ≤ engine.slots := Nat.zero_le _
  refine (play_induction (P := fun s => s.active.size ≤ engine.slots) (sound_initial p _)
    (engine.accounted_anyEnd p turns) ?_ played start).2
  intro s s' turn _ step within
  exact step.active_size_le within

/-- Whoever has a slot waits for nobody else. -/
theorem Sound.ok_of_active (sound : s.Sound p ends) {id : String} (active : id ∈ s.active.keys) :
    id ∈ p.nodes.keys ∧ id ∉ s.store.keys ∧ ∀ feeder ∈ p.predecessors id, s.store.ok feeder := by
  obtain ⟨inputs, found⟩ := OrderedMap.exists_find? active
  obtain ⟨known, fed⟩ := sound.begunFed id inputs (sound.activeBegun id inputs found)
  exact ⟨known, sound.fresh (sound.apart id active), fed.clear⟩

/-! ## Going on to the end -/

theorem Step.sound_anyEnd {turn : Turn} (step : Step engine p s turn s')
    (sound : s.Sound p engine.anyEnd) : s'.Sound p engine.anyEnd :=
  sound.step step fun _ _ _ _ answer => ⟨turn, answer⟩

theorem Sound.exists_completion (sound : s.Sound p engine.anyEnd) (o : p.Ordered)
    (slots : 0 < engine.slots) (finishing : engine.Finishing) :
    ∃ t, s.Reaches engine p t ∧ t.complete p := by
  -- Every turn adds to the weight, which has a bound.
  generalize left : 3 * p.nodes.size - s.weight = n
  induction n using Nat.strongRecOn generalizing s with
  | ind n ih =>
      by_cases done : ∀ id ∈ p.nodes.keys, id ∈ s.ended
      · exact ⟨s, .refl engine p s, (complete_iff o).mpr done⟩
      · simp only [not_forall] at done
        obtain ⟨id, known, unfinished⟩ := done
        obtain ⟨other, next, moved⟩ := sound.exists_advance_of_unfinished o slots
          finishing.exists_result? known unfinished
        have step : Step engine p s (.task other engine.help) next :=
          step_of_advance sound.toTidy moved
        have nearer := step.weight_lt
        have bound := (step.sound_anyEnd sound).weight_le
        obtain ⟨t, reached, complete⟩ := ih _ (by omega) (step.sound_anyEnd sound) rfl
        exact ⟨t, (reaches_of_advance moved).trans reached, complete⟩

/-- In every state of a run no more evaluations go on than there are slots, and none of them waits
for another node. As long as a node has no result, an evaluation goes on or some task can take a
turn, whatever anybody answers. When every evaluation ends, the run can go on to its end. -/
theorem moves_within_slots {draft : Draft} {w : Workflow} (valid : draft.validate = .ok w)
    {engine : Engine} (slots : 0 < engine.slots) {turns : List Turn} {s : RunState}
    (played : play engine w.plan .initial turns = some s) :
    s.active.size ≤ engine.slots ∧
    (∀ id ∈ s.active.keys, id ∈ w.nodes.keys ∧ id ∉ s.store.keys ∧
      ∀ feeder ∈ w.plan.predecessors id, s.store.ok feeder) ∧
    (∀ id ∈ w.nodes.keys, id ∉ s.store.keys → (∃ other, other ∈ s.active.keys) ∨
      ∃ other, ∀ help, ∃ t, s.take engine w.plan (.task other help) = some t) ∧
    (engine.Finishing →
      ∃ ids t, play engine w.plan s (engine.turns ids) = some t ∧ t.complete w.plan) := by
  have o := Draft.ordered_of_validate valid
  have sound := sound_of_play played
  refine ⟨active_size_le_of_play played, fun id active => sound.ok_of_active active, ?_, ?_⟩
  · intro id known unrecorded
    have unfinished : id ∉ s.ended := fun ended => unrecorded (sound.mem_keys_iff.mpr ended)
    obtain ⟨other, inputs, active⟩ | ⟨other, step⟩ :=
      sound.exists_step_of_unfinished o slots known unfinished
    · exact .inl ⟨other, OrderedMap.mem_keys_of_find? active⟩
    · refine .inr ⟨other, fun help => ?_⟩
      obtain ⟨t, step⟩ := step help
      exact ⟨t, advance_of_step sound.toTidy step⟩
  · intro finishing
    obtain ⟨t, ⟨ids, played'⟩, complete⟩ := sound.exists_completion o slots finishing
    exact ⟨ids, t, played', complete⟩

/-- The only slot is taken, and the run comes to its end all the same. -/
theorem moves_within_slots_watched : ∃ s, play .unprovided Workflow.watched.plan .initial
    (Engine.unprovided.turns ["model", "model"]) = some s ∧ s.active.keys = ["model"] ∧
      s.active.size ≤ 1 ∧ ∃ ids t, play .unprovided Workflow.watched.plan s
        (Engine.unprovided.turns ids) = some t ∧ t.complete Workflow.watched.plan := by
  have busy : (play .unprovided Workflow.watched.plan .initial
      (Engine.unprovided.turns ["model", "model"])).map (·.active.keys) = some ["model"] := by
    decide +kernel
  obtain ⟨s, played, active⟩ := Option.map_eq_some_iff.mp busy
  obtain ⟨within, -, -, further⟩ := moves_within_slots Draft.validate_watched (by decide) played
  exact ⟨s, played, active, within, further (.inl Engine.answering_unprovided)⟩

end RunState

end BuildingWorkflow
