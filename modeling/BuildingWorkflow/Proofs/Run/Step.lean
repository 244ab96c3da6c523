import BuildingWorkflow.Proofs.Run.Justified

/-!
What one turn does.

A turn passes a node over, queues it, gives it a slot, or ends its evaluation. In a tidy state that
is all that can happen: nothing is refused, and no turn leads to a fault of the engine.
-/
namespace BuildingWorkflow

/-- The node whose task or clock moves. -/
def Turn.id : Turn → String
  | task id _ | expiry id => id

/-- The result with which a turn ends an evaluation, if it can. -/
def Engine.answer? (engine : Engine) (turn : Turn) (node : Node) (inputs : Inputs) :
    Option NodeResult :=
  match turn with
  | .task _ help => { engine with help := help }.result? node inputs
  | .expiry _ => engine.timeout.map (expired node.id)

/-- The ends of evaluations when whoever is asked may answer every time as they like. -/
def Engine.anyEnd (engine : Engine) : Account := fun node inputs result =>
  ∃ turn, engine.answer? turn node inputs = some result

/-- The ends of evaluations when the collaborators answer by the request alone. -/
def Engine.ownEnd (engine : Engine) : Account := fun node inputs result =>
  engine.result? node inputs = some result

theorem Engine.ownEnd_functional (engine : Engine) (node : Node) (inputs : Inputs)
    (r r' : NodeResult) (h : engine.ownEnd node inputs r) (h' : engine.ownEnd node inputs r') :
    r = r' := Option.some.inj (h.symm.trans h')

theorem Engine.regular_ownEnd (engine : Engine) : engine.ownEnd.Regular := by
  intro node inputs inputs' alike result ended
  exact (alike.result? engine node).symm.trans ended

/-- The evaluations that some turns end, end as an account says of the nodes that they are of. -/
def Engine.Accounted (engine : Engine) (p : Plan) (ends : Account) (turns : List Turn) : Prop :=
  ∀ turn ∈ turns, ∀ node, p.nodes.find? turn.id = some node →
    ∀ inputs result, engine.answer? turn node inputs = some result → ends node inputs result

theorem Engine.Accounted.tail {engine : Engine} {p : Plan} {ends : Account} {turn : Turn}
    {rest : List Turn} (h : engine.Accounted p ends (turn :: rest)) :
    engine.Accounted p ends rest :=
  fun other member => h other (List.mem_cons_of_mem _ member)

theorem Engine.accounted_anyEnd (engine : Engine) (p : Plan) (turns : List Turn) :
    engine.Accounted p engine.anyEnd turns :=
  fun turn _ _ _ _ _ answer => ⟨turn, answer⟩

theorem Engine.accounted_turns (engine : Engine) (p : Plan) (ids : List String) :
    engine.Accounted p engine.ownEnd (engine.turns ids) := by
  intro turn member node _ inputs result answer
  obtain ⟨id, -, rfl⟩ := List.mem_map.mp member
  exact answer

theorem Engine.own_of_answer? {engine : Engine} {turn : Turn} {node : Node} {inputs : Inputs}
    {result : NodeResult} (clean : inputs.Clean)
    (h : engine.answer? turn node inputs = some result) : result.Own := by
  cases turn with
  | task id help =>
      have ended : Engine.result? { engine with help := help } node inputs = some result := h
      exact own_of_result? clean ended
  | expiry id =>
      obtain ⟨seconds, -, rfl⟩ := Option.map_eq_some_iff.mp h
      exact own_expired node.id seconds

/-- A result that an evaluation did not leave names the obstacle of its node. -/
theorem Earned.own_or_blocked {p : Plan} {engine : Engine} {store : Store} {id : String}
    {result : NodeResult} (earned : Earned p engine.anyEnd store id result) : result.Own ∨
      ∃ obstacle, result = .blocked obstacle ∧ RunState.obstacle? p store id = some obstacle := by
  cases earned with
  | blocked found => exact .inr ⟨_, rfl, found⟩
  | evaluated known fed ended =>
      obtain ⟨turn, answer⟩ := ended
      exact .inl (Engine.own_of_answer? fed.clean answer)

namespace RunState

/-- The state when the task of a node is over with a result. -/
def concluded (s : RunState) (id : String) (result : NodeResult) : RunState :=
  { s with store := s.store.insert id result, ended := s.ended ++ [id] }

/-- There are results of the tasks that are over, no others, and none that is still awaited. -/
structure Tidy (s : RunState) : Prop where
  faultless : s.fault = none
  keys : s.store.keys = s.ended
  apart : ∀ id ∈ s.active.keys, id ∉ s.ended

/-- The predecessors of a node are over, and its task has not gone further yet. -/
structure Waits (p : Plan) (s : RunState) (id : String) : Prop where
  known : id ∈ p.nodes.keys
  unfinished : id ∉ s.ended
  notActive : s.active.find? id = none
  notQueued : s.queued.find? id = none
  ready : ∀ feeder ∈ p.predecessors id, feeder ∈ s.ended

inductive Step (engine : Engine) (p : Plan) (s : RunState) : Turn → RunState → Prop
  | pass {id obstacle : String} {help : Collaborators} (waits : s.Waits p id)
      (found : obstacle? p s.store id = some obstacle) :
      Step engine p s (.task id help) (s.concluded id (.blocked obstacle))
  | queue {id : String} {help : Collaborators} {inputs : Inputs} (waits : s.Waits p id)
      (fed : Fed p s.store id inputs) :
      Step engine p s (.task id help) { s with queued := s.queued.insert id inputs }
  | begin {id : String} {help : Collaborators} {inputs : Inputs} (known : id ∈ p.nodes.keys)
      (unfinished : id ∉ s.ended) (notActive : s.active.find? id = none)
      (queued : s.queued.find? id = some inputs) (room : s.active.size < engine.slots) :
      Step engine p s (.task id help) (s.begin id inputs)
  | leave {turn : Turn} {node : Node} {inputs : Inputs} {result : NodeResult}
      (known : p.nodes.find? turn.id = some node) (unfinished : turn.id ∉ s.ended)
      (active : s.active.find? turn.id = some inputs)
      (answer : engine.answer? turn node inputs = some result) :
      Step engine p s turn ({ s with active := s.active.erase turn.id }.concluded turn.id result)

variable {engine : Engine} {p : Plan} {s s' : RunState} {id : String}

theorem recorded_eq (fresh : id ∉ s.store.keys) (result : NodeResult) :
    s.recorded id result = .ok (s.concluded id result) := by
  have absent : s.store.contains id = false := by
    simpa using (OrderedMap.contains_iff s.store id).not.mpr fresh
  simp only [recorded, Store.record, absent, Bool.false_eq_true, if_false]
  rfl

theorem Tidy.fresh (tidy : s.Tidy) (unfinished : id ∉ s.ended) : id ∉ s.store.keys :=
  tidy.keys ▸ unfinished

theorem Tidy.finish_eq (tidy : s.Tidy) (unfinished : id ∉ s.ended) (result : NodeResult) :
    s.orFault (s.finish id result) =
      { s with active := s.active.erase id }.concluded id result := by
  rw [finish, recorded_eq (s := { s with active := s.active.erase id }) (tidy.fresh unfinished)]
  rfl

theorem Tidy.enqueue_eq_concluded (tidy : s.Tidy) (waits : s.Waits p id) {obstacle : String}
    (found : obstacle? p s.store id = some obstacle) :
    s.orFault (enqueue p s id) = s.concluded id (.blocked obstacle) := by
  simp only [enqueue, found, recorded_eq (tidy.fresh waits.unfinished)]
  rfl

theorem Tidy.exists_fed (tidy : s.Tidy) (waits : s.Waits p id)
    (clear : obstacle? p s.store id = none) : ∃ inputs, Fed p s.store id inputs := by
  have recorded : ∀ feeder ∈ p.predecessors id, feeder ∈ s.store.keys := fun feeder feeds =>
    tidy.keys.symm ▸ waits.ready feeder feeds
  obtain ⟨inputs, gathered⟩ := Plan.exists_inputsFor recorded
  exact ⟨inputs, obstacle?_eq_none_iff.mp clear, gathered⟩

theorem enqueue_eq_queued {inputs : Inputs} (fed : Fed p s.store id inputs) :
    s.orFault (enqueue p s id) = { s with queued := s.queued.insert id inputs } := by
  simp only [enqueue, obstacle?_eq_none_iff.mpr fed.clear, fed.gathered]
  rfl

section Advance

variable (tidy : s.Tidy) {node : Node} (known : p.nodes.find? id = some node)
  (unfinished : id ∉ s.ended)

include tidy known unfinished

theorem advance_of_active {inputs : Inputs} (active : s.active.find? id = some inputs) :
    advance engine p s id = (engine.result? node inputs).map
      ({ s with active := s.active.erase id }.concluded id) := by
  simp only [advance, tidy.faultless, known, active, List.contains_iff_mem, unfinished, if_false,
    tidy.finish_eq unfinished]

theorem advance_of_queued {inputs : Inputs} (notActive : s.active.find? id = none)
    (queued : s.queued.find? id = some inputs) : advance engine p s id =
      if s.active.size < engine.slots then some (s.begin id inputs) else none := by
  simp only [advance, tidy.faultless, known, notActive, queued, List.contains_iff_mem, unfinished,
    if_false]

theorem advance_of_waiting (notActive : s.active.find? id = none)
    (notQueued : s.queued.find? id = none) : advance engine p s id =
      if ∀ feeder ∈ p.predecessors id, feeder ∈ s.ended then some (s.orFault (enqueue p s id))
      else none := by
  simp only [advance, tidy.faultless, known, notActive, notQueued, List.contains_iff_mem,
    unfinished, if_false, List.all_eq_true]

end Advance

theorem step_of_advance (tidy : s.Tidy) {help : Collaborators}
    (h : advance { engine with help := help } p s id = some s') :
    Step engine p s (.task id help) s' := by
  cases known : p.nodes.find? id with
  | none => simp [advance, tidy.faultless, known] at h
  | some node =>
      by_cases unfinished : id ∈ s.ended
      · simp [advance, tidy.faultless, known, unfinished] at h
      · have isNode := OrderedMap.mem_keys_of_find? known
        cases active : s.active.find? id with
        | some inputs =>
            rw [advance_of_active tidy known unfinished active] at h
            obtain ⟨result, answer, rfl⟩ := Option.map_eq_some_iff.mp h
            exact .leave known unfinished active answer
        | none =>
            cases queued : s.queued.find? id with
            | some inputs =>
                rw [advance_of_queued tidy known unfinished active queued,
                  Option.ite_none_right_eq_some, Option.some.injEq] at h
                obtain ⟨room, rfl⟩ := h
                exact .begin isNode unfinished active queued room
            | none =>
                rw [advance_of_waiting tidy known unfinished active queued,
                  Option.ite_none_right_eq_some, Option.some.injEq] at h
                obtain ⟨ready, rfl⟩ := h
                have waits : s.Waits p id := ⟨isNode, unfinished, active, queued, ready⟩
                cases found : obstacle? p s.store id with
                | some obstacle =>
                    rw [tidy.enqueue_eq_concluded waits found]
                    exact .pass waits found
                | none =>
                    obtain ⟨inputs, fed⟩ := tidy.exists_fed waits found
                    rw [enqueue_eq_queued fed]
                    exact .queue waits fed

theorem step_of_expire (tidy : s.Tidy) (h : expire engine p s id = some s') :
    Step engine p s (.expiry id) s' := by
  unfold expire at h
  split at h
  · rename_i seconds node inputs faultless timed known active
    have unfinished := tidy.apart id (OrderedMap.mem_keys_of_find? active)
    rw [tidy.finish_eq unfinished, Option.some.injEq] at h
    subst h
    refine .leave known unfinished active ?_
    rw [Engine.answer?, timed, Option.map_some]
  · cases h

/-- A turn in a tidy state is one of the four steps. -/
theorem step_of_take (tidy : s.Tidy) {turn : Turn} (h : s.take engine p turn = some s') :
    Step engine p s turn s' := by
  cases turn with
  | task id help => exact step_of_advance tidy h
  | expiry id => exact step_of_expire tidy h

theorem advance_of_waits (tidy : s.Tidy) (waits : s.Waits p id) :
    advance engine p s id = some (s.orFault (enqueue p s id)) := by
  obtain ⟨node, known⟩ := OrderedMap.exists_find? waits.known
  rw [advance_of_waiting tidy known waits.unfinished waits.notActive waits.notQueued,
    if_pos waits.ready]

/-- A step of a task is a turn that it can take. -/
theorem advance_of_step (tidy : s.Tidy) {help : Collaborators}
    (h : Step engine p s (.task id help) s') :
    advance { engine with help := help } p s id = some s' := by
  cases h with
  | pass waits found => rw [advance_of_waits tidy waits, tidy.enqueue_eq_concluded waits found]
  | queue waits fed => rw [advance_of_waits tidy waits, enqueue_eq_queued fed]
  | begin isNode unfinished notActive queued room =>
      obtain ⟨node, known⟩ := OrderedMap.exists_find? isNode
      rw [advance_of_queued tidy known unfinished notActive queued, if_pos room]
  | leave known unfinished active answer =>
      simp only [Turn.id] at known unfinished active ⊢
      rw [advance_of_active tidy known unfinished active]
      exact Option.map_eq_some_iff.mpr ⟨_, answer, rfl⟩

end RunState

end BuildingWorkflow
