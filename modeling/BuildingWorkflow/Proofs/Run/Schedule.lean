import BuildingWorkflow.Proofs.Run.Progress

/-!
The schedule is one order of turns.

Whatever the bookkeeping of a schedule, its states come from turns that any run could take, and it
ends where no task can do anything.
-/
namespace BuildingWorkflow

namespace RunState

/-- Turns of tasks lead from one state to the other, with collaborators that answer by the request
alone. -/
def Reaches (engine : Engine) (p : Plan) (s t : RunState) : Prop :=
  ∃ ids, play engine p s (engine.turns ids) = some t

variable {engine : Engine} {p : Plan} {ends : Account} {s t u : RunState} {id : String}

theorem Reaches.refl (engine : Engine) (p : Plan) (s : RunState) : s.Reaches engine p s := ⟨[], rfl⟩

theorem Reaches.trans (h : s.Reaches engine p t) (h' : t.Reaches engine p u) :
    s.Reaches engine p u := by
  obtain ⟨ids, played⟩ := h
  obtain ⟨more, played'⟩ := h'
  refine ⟨ids ++ more, ?_⟩
  rw [Engine.turns, List.map_append, play_append]
  exact Option.bind_eq_some_iff.mpr ⟨t, played, played'⟩

theorem reaches_of_advance (h : advance engine p s id = some t) : s.Reaches engine p t :=
  ⟨[id], Option.bind_eq_some_iff.mpr ⟨t, h, rfl⟩⟩

theorem reaches_getD (engine : Engine) (p : Plan) (s : RunState) (id : String) :
    s.Reaches engine p ((advance engine p s id).getD s) := by
  cases moved : advance engine p s id with
  | none => exact .refl engine p s
  | some t => exact reaches_of_advance moved

theorem Reaches.sound (h : s.Reaches engine p t) (sound : s.Sound p engine.ownEnd) :
    t.Sound p engine.ownEnd := by
  obtain ⟨ids, played⟩ := h
  exact sound.play (engine.accounted_turns p ids) played

/-! ## Turn after turn -/

theorem reaches_settle (engine : Engine) (p : Plan) (n : Nat) (s : RunState) :
    s.Reaches engine p (settle engine p n s) := by
  induction n generalizing s with
  | zero => exact .refl engine p s
  | succ n ih =>
      rw [settle]
      split
      · rename_i next first
        obtain ⟨id, -, moved⟩ := List.exists_of_findSome?_eq_some first
        exact (reaches_of_advance moved).trans (ih next)
      · exact .refl engine p s

theorem rest_of_advanceFirst (o : p.Ordered) (h : advanceFirst engine p s = none) (id : String) :
    advance engine p s id = none := by
  by_cases known : id ∈ p.nodes.keys
  · exact List.findSome?_eq_none_iff.mp h id ((o.mem_order id).mpr known)
  · have absent := (OrderedMap.find?_eq_none_iff p.nodes id).mpr known
    cases faulty : s.fault with
    | none => simp only [advance, faulty, absent]
    | some fault => simp only [advance, faulty]

theorem weight_lt_of_advance (tidy : s.Tidy) (h : advance engine p s id = some t) :
    s.weight < t.weight := by
  have step : Step engine p s (.task id engine.help) t := step_of_advance tidy h
  exact step.weight_lt

/-- After as many turns as tasks can have, nothing is left to do. -/
theorem rest_settle (o : p.Ordered) {n : Nat} (sound : s.Sound p engine.ownEnd)
    (enough : 3 * p.nodes.size ≤ n + s.weight) (id : String) :
    advance engine p (settle engine p n s) id = none := by
  induction n generalizing s with
  | zero =>
      cases moved : advance engine p s id with
      | none => exact moved
      | some t =>
          have reached := reaches_of_advance moved
          have nearer := weight_lt_of_advance sound.toTidy moved
          have bound := (reached.sound sound).weight_le
          omega
  | succ n ih =>
      rw [settle]
      split
      · rename_i next first
        obtain ⟨other, -, moved⟩ := List.exists_of_findSome?_eq_some first
        have nearer := weight_lt_of_advance sound.toTidy moved
        exact ih ((reaches_of_advance moved).sound sound) (by omega)
      · rename_i first
        exact rest_of_advanceFirst o first id

end RunState

namespace Schedule

open RunState (Reaches)

variable (engine : Engine) (p : Plan) (s : Schedule) (id : String)

@[simp] theorem state_promise : (s.promise engine).state = s.state := by
  unfold promise
  split
  · split <;> rfl
  · rfl

@[simp] theorem state_wake : (s.wake id).state = s.state := rfl

@[simp] theorem state_left (state : RunState) : (s.left engine id state).state = state := by
  simp [left]

theorem reaches_leave : s.state.Reaches engine p (s.leave engine p id).state := by
  unfold leave
  cases moved : RunState.advance engine p s.state id with
  | none => exact .refl engine p s.state
  | some t =>
      simp only [Option.map_some, Option.getD_some, state_left]
      exact RunState.reaches_of_advance moved

theorem reaches_enter : s.state.Reaches engine p (s.enter engine p id).state := by
  have start := RunState.reaches_getD engine p s.state id
  simp only [enter]
  split
  · split
    · refine start.trans ?_
      have rest := reaches_leave engine p
        (({ s with promised := s.promised.erase id }.advance engine p id).promise engine) id
      rwa [state_promise] at rest
    · rwa [state_promise]
  · rwa [state_promise]

theorem reaches_prepare : s.state.Reaches engine p (s.prepare engine p id).state := by
  have start := RunState.reaches_getD engine p s.state id
  simp only [prepare]
  split
  · exact start
  · split
    · exact start.trans (reaches_enter engine p (s.advance engine p id) id)
    · exact start

theorem reaches_turn : s.state.Reaches engine p (s.turn engine p id).state := by
  unfold turn
  split
  · exact reaches_enter engine p s id
  · split
    · exact .refl engine p s.state
    · exact reaches_prepare engine p s id

theorem reaches_next? {t : Schedule} (h : s.next? engine p = some t) :
    s.state.Reaches engine p t.state := by
  unfold next? at h
  split at h
  · rename_i id due _
    rw [← Option.some.inj h]
    exact reaches_turn engine p { s with due := due } id
  · obtain ⟨id, -, found⟩ := List.exists_of_findSome?_eq_some h
    obtain ⟨state, moved, rfl⟩ := Option.map_eq_some_iff.mp found
    rw [state_left]
    exact RunState.reaches_of_advance moved

theorem reaches_go (n : Nat) : s.state.Reaches engine p (go engine p n s).state := by
  induction n generalizing s with
  | zero => exact .refl engine p s.state
  | succ n ih =>
      rw [go]
      split
      · rename_i next found
        exact (reaches_next? engine p s found).trans (ih next)
      · exact .refl engine p s.state

theorem reaches_settled : RunState.initial.Reaches engine p (settled engine p) :=
  (reaches_go engine p (initial p) (bound p)).trans (RunState.reaches_settle engine p _ _)

variable {engine p}

theorem rest_settled (o : p.Ordered) (id : String) :
    RunState.advance engine p (settled engine p) id = none := by
  refine RunState.rest_settle o ?_ (by rw [o.length_order]; omega) id
  exact (reaches_go engine p (initial p) (bound p)).sound (RunState.sound_initial p _)

end Schedule

/-- Some order of turns goes on until no task can do anything. -/
theorem RunState.exists_rest (engine : Engine) {p : Plan} (o : p.Ordered) :
    ∃ ids s, play engine p .initial (engine.turns ids) = some s ∧
      ∀ id, advance engine p s id = none := by
  obtain ⟨ids, played⟩ := Schedule.reaches_settled engine p
  exact ⟨ids, _, played, Schedule.rest_settled o⟩

/-- The end of a run that is not cancelled before it starts is that of a state which turns of tasks
lead to and in which no task can do anything. -/
theorem Engine.exists_run (engine : Engine) {p : Plan} (o : p.Ordered)
    {cancellation : Cancellation} (started : cancellation ≠ .before) :
    ∃ s, RunState.initial.Reaches engine p s ∧ (∀ id, RunState.advance engine p s id = none) ∧
      engine.run p cancellation = (s.ending p cancellation, s) :=
  ⟨Schedule.settled engine p, Schedule.reaches_settled engine p, Schedule.rest_settled o,
    if_neg started⟩

end BuildingWorkflow
