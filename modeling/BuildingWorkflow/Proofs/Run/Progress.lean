import BuildingWorkflow.Proofs.Run.Sound

/-!
Runs go on and come to an end.

Every turn brings some task nearer to its end and no task has more than three, so a run has only so
many turns. As long as a task is not over, some evaluation goes on or some task can take a turn.
-/
namespace BuildingWorkflow
namespace RunState

variable {engine : Engine} {p : Plan} {ends : Account} {s s' : RunState}

/-! ## Runs as sequences of turns -/

theorem play_append (engine : Engine) (p : Plan) (s : RunState) (turns more : List Turn) :
    play engine p s (turns ++ more) = (play engine p s turns).bind (play engine p · more) := by
  induction turns generalizing s with
  | nil => rfl
  | cons turn rest ih =>
      simp only [List.cons_append, play, Option.bind_assoc, ih]

theorem Step.find?_store (sound : s.Sound p ends) {turn : Turn} (h : Step engine p s turn s')
    {id : String} {result : NodeResult} (found : s.store.find? id = some result) :
    s'.store.find? id = some result := by
  have old := sound.mem_keys_iff.mp (OrderedMap.mem_keys_of_find? found)
  cases h with
  | pass waits _ =>
      have distinct := ne_of_mem_of_not_mem old waits.unfinished
      exact (OrderedMap.find?_insert ..).trans ((if_neg distinct).trans found)
  | queue _ _ => exact found
  | begin _ _ _ _ _ => exact found
  | leave _ unfinished _ _ =>
      have distinct := ne_of_mem_of_not_mem old unfinished
      exact (OrderedMap.find?_insert ..).trans ((if_neg distinct).trans found)

/-! ## Bounds -/

/-- How far the tasks have got together. -/
def weight (s : RunState) : Nat := 3 * s.ended.length + 2 * s.active.size + s.queued.size

theorem Step.weight_lt {turn : Turn} (h : Step engine p s turn s') : s.weight < s'.weight := by
  cases h with
  | pass waits _ =>
      simp only [weight, concluded, List.length_append, List.length_singleton]
      omega
  | @queue _ _ inputs waits _ =>
      have more := OrderedMap.size_insert
        ((OrderedMap.find?_eq_none_iff _ _).mp waits.notQueued) inputs
      simp only [weight]
      omega
  | begin _ _ notActive queued _ =>
      have more := OrderedMap.size_insert ((OrderedMap.find?_eq_none_iff _ _).mp notActive)
      have less := OrderedMap.size_erase (OrderedMap.mem_keys_of_find? queued)
      simp only [weight, RunState.begin, more]
      omega
  | leave _ _ active _ =>
      have less := OrderedMap.size_erase (OrderedMap.mem_keys_of_find? active)
      simp only [weight, concluded, List.length_append, List.length_singleton]
      omega

namespace Sound

theorem active_known (sound : s.Sound p ends) {id : String} (h : id ∈ s.active.keys) :
    id ∈ p.nodes.keys ∧ id ∈ s.beginners := by
  obtain ⟨inputs, found⟩ := OrderedMap.exists_find? h
  have begun := sound.activeBegun id inputs found
  exact ⟨(sound.begunFed id inputs begun).1, List.mem_map_of_mem begun⟩

/-- No node is at two places of a run. -/
theorem nodup_places (sound : s.Sound p ends) :
    (s.ended ++ (s.active.keys ++ s.queued.keys)).Nodup := by
  refine List.nodup_append'.mpr ⟨sound.keys ▸ s.store.nodup_keys,
    List.nodup_append'.mpr ⟨s.active.nodup_keys, s.queued.nodup_keys, ?_⟩, ?_⟩
  · intro id active queued
    exact (sound.queuedFresh id queued).2.2 (sound.active_known active).2
  · intro id ended elsewhere
    cases List.mem_append.mp elsewhere with
    | inl active => exact sound.apart id active ended
    | inr queued => exact (sound.queuedFresh id queued).2.1 ended

theorem weight_le (sound : s.Sound p ends) : s.weight ≤ 3 * p.nodes.size := by
  -- No node counts twice, whichever place it is at, and none counts for more than three.
  have inside : s.ended ++ (s.active.keys ++ s.queued.keys) ⊆ p.nodes.keys := by
    intro id member
    cases List.mem_append.mp member with
    | inl ended => exact sound.justified.known id (sound.mem_keys_iff.mpr ended)
    | inr elsewhere =>
        cases List.mem_append.mp elsewhere with
        | inl active => exact (sound.active_known active).1
        | inr queued => exact (sound.queuedFresh id queued).1
  have places := (sound.nodup_places.subperm inside).length_le
  simp only [List.length_append, ← OrderedMap.size_eq_length_keys] at places
  unfold weight
  omega

theorem weight_add_length_le {turns : List Turn} (sound : s.Sound p ends)
    (accounted : engine.Accounted p ends turns)
    (h : RunState.play engine p s turns = some s') : s.weight + turns.length ≤ s'.weight := by
  induction turns generalizing s with
  | nil =>
      cases h
      exact Nat.le_refl _
  | cons turn rest ih =>
      obtain ⟨next, taken, played⟩ := Option.bind_eq_some_iff.mp h
      have step := step_of_take sound.toTidy taken
      have further := ih (sound.step step (accounted turn List.mem_cons_self)) accounted.tail played
      have nearer := step.weight_lt
      rw [List.length_cons]
      omega

/-- A run has at most three turns for each node. -/
theorem length_le {turns : List Turn} (sound : s.Sound p ends)
    (accounted : engine.Accounted p ends turns)
    (h : RunState.play engine p s turns = some s') : turns.length ≤ 3 * p.nodes.size := by
  have gone := sound.weight_add_length_le accounted h
  have bound := (sound.play accounted h).weight_le
  omega

/-! ## Progress -/

theorem exists_step_of_waits (sound : s.Sound p ends) (engine : Engine) (help : Collaborators)
    {id : String} (waits : s.Waits p id) : ∃ s', Step engine p s (.task id help) s' := by
  cases found : obstacle? p s.store id with
  | some obstacle => exact ⟨_, .pass waits found⟩
  | none =>
      obtain ⟨inputs, fed⟩ := sound.exists_fed waits found
      exact ⟨_, .queue waits fed⟩

/-- As long as a task is not over, an evaluation goes on or a task can take a turn, whatever anybody
answers. -/
theorem exists_step_of_unfinished (sound : s.Sound p ends) (o : p.Ordered)
    (slots : 0 < engine.slots) {id : String} (known : id ∈ p.nodes.keys)
    (unfinished : id ∉ s.ended) : (∃ other inputs, s.active.find? other = some inputs) ∨
      ∃ other, ∀ help, ∃ s', Step engine p s (.task other help) s' := by
  by_contra stuck
  obtain ⟨idle, noStep⟩ := not_or.mp stuck
  have notActive (id : String) : s.active.find? id = none := by
    cases active : s.active.find? id with
    | none => rfl
    | some inputs => exact absurd ⟨id, inputs, active⟩ idle
  refine unfinished (o.induction (P := fun id => id ∈ p.nodes.keys → id ∈ s.ended)
    (fun id ih known => ?_) id known)
  by_contra unfinished
  cases queued : s.queued.find? id with
  | some inputs =>
      have none : s.active.keys = [] := List.eq_nil_iff_forall_not_mem.mpr fun other =>
        (OrderedMap.find?_eq_none_iff _ _).mp (notActive other)
      have room : s.active.size < engine.slots := by
        rwa [OrderedMap.size_eq_length_keys, none]
      exact noStep ⟨id, fun _ => ⟨_, .begin known unfinished (notActive id) queued room⟩⟩
  | none =>
      have ready : ∀ feeder ∈ p.predecessors id, feeder ∈ s.ended := fun feeder feeds =>
        ih feeder feeds (o.source_known feeds)
      exact noStep ⟨id, fun help => sound.exists_step_of_waits engine help
        ⟨known, unfinished, notActive id, queued, ready⟩⟩

section Answered

variable (sound : s.Sound p ends) (o : p.Ordered) (slots : 0 < engine.slots)
  (answered : ∀ node inputs, ∃ result, engine.result? node inputs = some result)

include sound o slots answered

/-- When every evaluation ends, some task can take a turn as long as one is not over. -/
theorem exists_advance_of_unfinished {id : String} (known : id ∈ p.nodes.keys)
    (unfinished : id ∉ s.ended) : ∃ other t, advance engine p s other = some t := by
  obtain ⟨other, inputs, active⟩ | ⟨other, step⟩ :=
    sound.exists_step_of_unfinished o slots known unfinished
  · have isActive := OrderedMap.mem_keys_of_find? active
    obtain ⟨node, found⟩ := OrderedMap.exists_find? (sound.active_known isActive).1
    obtain ⟨result, answer⟩ := answered node inputs
    have step : Step engine p s (.task other engine.help) _ :=
      .leave found (sound.apart other isActive) active answer
    exact ⟨other, _, advance_of_step sound.toTidy step⟩
  · obtain ⟨t, step⟩ := step engine.help
    exact ⟨other, t, advance_of_step sound.toTidy step⟩

/-- When every evaluation ends, only the end of all tasks stops a run. -/
theorem ended_of_rest (rest : ∀ id, advance engine p s id = none) :
    ∀ id ∈ p.nodes.keys, id ∈ s.ended := by
  intro id known
  by_contra unfinished
  obtain ⟨other, t, moved⟩ := sound.exists_advance_of_unfinished o slots answered known unfinished
  rw [rest other] at moved
  cases moved

end Answered

theorem recorded_of_finishing (sound : s.Sound p ends) (o : p.Ordered) (slots : 0 < engine.slots)
    (finishing : engine.Finishing) (rest : ∀ id, advance engine p s id = none) :
    ∀ id ∈ p.nodes.keys, id ∈ s.store.keys := by
  intro id known
  exact sound.mem_keys_iff.mpr (sound.ended_of_rest o slots finishing.exists_result? rest id known)

theorem recorded_of_rest (sound : s.Sound p ends) (o : p.Ordered) (slots : 0 < engine.slots)
    (answering : engine.help.Answering) (rest : ∀ id, advance engine p s id = none) :
    ∀ id ∈ p.nodes.keys, id ∈ s.store.keys :=
  sound.recorded_of_finishing o slots (.inl answering) rest

end Sound

theorem complete_iff (o : p.Ordered) :
    s.complete p ↔ ∀ id ∈ p.nodes.keys, id ∈ s.ended := by
  simp only [complete, List.all_eq_true, List.contains_iff_mem, o.mem_order]

end RunState

end BuildingWorkflow
