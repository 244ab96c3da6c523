import BuildingWorkflow.Proofs.Run.Step

/-!
What holds in every state of a run.

A state is sound when its results rest on those of predecessors, the nodes that are queued or begun
are fed, and no node is begun twice. Every turn keeps a state sound, in whatever order turns come
and whatever those answer who are asked.
-/
namespace BuildingWorkflow

theorem Fed.insert {p : Plan} {store : Store} {id other : String} {inputs : Inputs}
    (fed : Fed p store id inputs) (fresh : other ∉ store.keys) (result : NodeResult) :
    Fed p (store.insert other result) id inputs := by
  refine fed.congr fun feeder feeds => ?_
  have recorded := Store.mem_keys_of_ok (fed.clear feeder feeds)
  have distinct : feeder ≠ other := fun e => fresh (e ▸ recorded)
  rw [OrderedMap.find?_insert, if_neg distinct]

namespace RunState

/-- The nodes whose evaluations were begun, in order. -/
def beginners (s : RunState) : List String := s.begun.map Prod.fst

structure Sound (p : Plan) (ends : Account) (s : RunState) : Prop extends s.Tidy where
  justified : Justified p ends s.store
  queuedFed : ∀ id inputs, s.queued.find? id = some inputs → Fed p s.store id inputs
  queuedFresh : ∀ id ∈ s.queued.keys, id ∈ p.nodes.keys ∧ id ∉ s.ended ∧ id ∉ s.beginners
  activeBegun : ∀ id inputs, s.active.find? id = some inputs → (id, inputs) ∈ s.begun
  begunFed : ∀ id inputs, (id, inputs) ∈ s.begun → id ∈ p.nodes.keys ∧ Fed p s.store id inputs
  begunKept : ∀ id ∈ s.beginners, id ∈ s.active.keys ∨ id ∈ s.ended
  once : s.beginners.Nodup

theorem sound_initial (p : Plan) (ends : Account) : initial.Sound p ends where
  faultless := rfl
  keys := rfl
  apart := nofun
  justified := .empty p ends
  queuedFed := nofun
  queuedFresh := nofun
  activeBegun := nofun
  begunFed := nofun
  begunKept := nofun
  once := List.nodup_nil

variable {engine : Engine} {p : Plan} {ends : Account} {s s' : RunState} {id : String}

namespace Sound

theorem not_begun (sound : s.Sound p ends) (unfinished : id ∉ s.ended)
    (notActive : s.active.find? id = none) : id ∉ s.beginners := by
  intro member
  cases sound.begunKept id member with
  | inl active => exact (OrderedMap.find?_eq_none_iff _ _).mp notActive active
  | inr ended => exact unfinished ended

theorem mem_keys_iff (sound : s.Sound p ends) : id ∈ s.store.keys ↔ id ∈ s.ended := by
  rw [sound.keys]

/-- The task of a node ends with a result, and a slot that it had is free again. -/
theorem conclude (sound : s.Sound p ends) {result : NodeResult} (unfinished : id ∉ s.ended)
    (known : id ∈ p.nodes.keys) (notQueued : id ∉ s.queued.keys)
    (ready : ∀ feeder ∈ p.predecessors id, feeder ∈ s.ended)
    (earned : Earned p ends s.store id result) :
    ({ s with active := s.active.erase id }.concluded id result).Sound p ends := by
  have fresh := sound.fresh unfinished
  refine ⟨⟨sound.faultless, ?_, ?_⟩, ?_, ?_, ?_, ?_, ?_, ?_, sound.once⟩
  · exact (OrderedMap.keys_insert_of_not_mem fresh result).trans (congrArg (· ++ [id]) sound.keys)
  · intro other member
    obtain ⟨active, distinct⟩ := List.mem_filter.mp (OrderedMap.keys_erase .. ▸ member)
    have unfinished' := sound.apart other active
    simpa [RunState.concluded, unfinished'] using distinct
  · exact sound.justified.insert fresh known (fun feeder feeds => sound.keys ▸ ready feeder feeds)
      earned
  · exact fun other inputs found => (sound.queuedFed other inputs found).insert fresh result
  · intro other member
    obtain ⟨known', unfinished', notBegun⟩ := sound.queuedFresh other member
    have distinct : other ≠ id := fun e => notQueued (e ▸ member)
    refine ⟨known', ?_, notBegun⟩
    simpa [RunState.concluded, unfinished'] using distinct
  · intro other inputs found
    simp only [RunState.concluded, OrderedMap.find?_erase, Option.ite_none_left_eq_some] at found
    exact sound.activeBegun other inputs found.2
  · intro other inputs member
    obtain ⟨known', fed⟩ := sound.begunFed other inputs member
    exact ⟨known', fed.insert fresh result⟩
  · intro other member
    simp only [RunState.concluded, OrderedMap.keys_erase, List.mem_filter, bne_iff_ne,
      List.mem_append, List.mem_singleton]
    cases sound.begunKept other member with
    | inl active =>
        by_cases same : other = id
        · exact .inr (.inr same)
        · exact .inl ⟨active, same⟩
    | inr ended => exact .inr (.inl ended)

theorem pass (sound : s.Sound p ends) (waits : s.Waits p id) {obstacle : String}
    (found : obstacle? p s.store id = some obstacle) :
    (s.concluded id (.blocked obstacle)).Sound p ends := by
  have next := sound.conclude waits.unfinished waits.known
    ((OrderedMap.find?_eq_none_iff _ _).mp waits.notQueued) waits.ready (.blocked found)
  rwa [OrderedMap.erase_of_not_mem ((OrderedMap.find?_eq_none_iff _ _).mp waits.notActive)] at next

theorem leave (sound : s.Sound p ends) {node : Node} {inputs : Inputs} {result : NodeResult}
    (known : p.nodes.find? id = some node) (unfinished : id ∉ s.ended)
    (active : s.active.find? id = some inputs) (ended : ends node inputs result) :
    ({ s with active := s.active.erase id }.concluded id result).Sound p ends := by
  have begun := sound.activeBegun id inputs active
  obtain ⟨-, fed⟩ := sound.begunFed id inputs begun
  refine sound.conclude unfinished (OrderedMap.mem_keys_of_find? known) (fun queued => ?_)
    (fun feeder feeds => ?_) (.evaluated known fed ended)
  · exact (sound.queuedFresh id queued).2.2 (List.mem_map_of_mem begun)
  · exact sound.mem_keys_iff.mp (Store.mem_keys_of_ok (fed.clear feeder feeds))

theorem queue (sound : s.Sound p ends) (waits : s.Waits p id) {inputs : Inputs}
    (fed : Fed p s.store id inputs) :
    { s with queued := s.queued.insert id inputs }.Sound p ends := by
  refine { sound with queuedFed := fun other inputs' found => ?_, queuedFresh := ?_ }
  · rw [OrderedMap.find?_insert] at found
    split at found
    · rename_i same
      cases found
      exact same ▸ fed
    · exact sound.queuedFed other inputs' found
  · intro other member
    rw [OrderedMap.keys_insert_of_not_mem ((OrderedMap.find?_eq_none_iff _ _).mp waits.notQueued),
      List.mem_append, List.mem_singleton] at member
    obtain member | rfl := member
    · exact sound.queuedFresh other member
    · exact ⟨waits.known, waits.unfinished, sound.not_begun waits.unfinished waits.notActive⟩

theorem begin (sound : s.Sound p ends) {inputs : Inputs} (known : id ∈ p.nodes.keys)
    (unfinished : id ∉ s.ended) (notActive : s.active.find? id = none)
    (queued : s.queued.find? id = some inputs) : (s.begin id inputs).Sound p ends := by
  have notBegun := sound.not_begun unfinished notActive
  have beginners : (s.begin id inputs).beginners = s.beginners ++ [id] := by
    simp [RunState.beginners, RunState.begin]
  have activeKeys : (s.begin id inputs).active.keys = s.active.keys ++ [id] :=
    OrderedMap.keys_insert_of_not_mem ((OrderedMap.find?_eq_none_iff _ _).mp notActive) inputs
  have queuedKeys : (s.begin id inputs).queued.keys = s.queued.keys.filter (· != id) :=
    OrderedMap.keys_erase s.queued id
  refine ⟨⟨sound.faultless, sound.keys, ?_⟩, sound.justified, ?_, ?_, ?_, ?_, ?_, ?_⟩
  · rw [activeKeys]
    intro other member
    cases List.mem_append.mp member with
    | inl member => exact sound.apart other member
    | inr member => exact List.mem_singleton.mp member ▸ unfinished
  · intro other inputs' found
    simp only [RunState.begin, OrderedMap.find?_erase, Option.ite_none_left_eq_some] at found
    exact sound.queuedFed other inputs' found.2
  · rw [queuedKeys, beginners]
    intro other member
    obtain ⟨member, distinct⟩ := List.mem_filter.mp member
    obtain ⟨known', unfinished', notBegun'⟩ := sound.queuedFresh other member
    refine ⟨known', unfinished', ?_⟩
    simpa [notBegun'] using distinct
  · intro other inputs' found
    simp only [RunState.begin, OrderedMap.find?_insert] at found
    split at found
    · rename_i same
      cases found
      exact List.mem_append_right _ (same ▸ List.mem_singleton_self _)
    · exact List.mem_append_left _ (sound.activeBegun other inputs' found)
  · intro other inputs' member
    cases List.mem_append.mp member with
    | inl member => exact sound.begunFed other inputs' member
    | inr member =>
        cases List.mem_singleton.mp member
        exact ⟨known, sound.queuedFed id inputs queued⟩
  · rw [beginners, activeKeys]
    intro other member
    cases List.mem_append.mp member with
    | inl member => exact (sound.begunKept other member).imp_left (List.mem_append_left _)
    | inr member => exact .inl (List.mem_append_right _ member)
  · rw [beginners]
    refine List.nodup_append.mpr ⟨sound.once, List.nodup_singleton id, ?_⟩
    intro other member last same
    rintro rfl
    exact notBegun (List.mem_singleton.mp same ▸ member)

/-- Evaluations end as the account of them says, whatever turn ends them. -/
theorem step (sound : s.Sound p ends) {turn : Turn} (h : Step engine p s turn s')
    (accounted : ∀ node, p.nodes.find? turn.id = some node →
      ∀ inputs result, engine.answer? turn node inputs = some result → ends node inputs result) :
    s'.Sound p ends := by
  cases h with
  | pass waits found => exact sound.pass waits found
  | queue waits fed => exact sound.queue waits fed
  | begin known unfinished notActive queued _ => exact sound.begin known unfinished notActive queued
  | leave known unfinished active answer =>
      exact sound.leave known unfinished active (accounted _ known _ _ answer)

end Sound

/-- What every step keeps, runs keep. -/
theorem play_induction {P : RunState → Prop} {turns : List Turn} (sound : s.Sound p ends)
    (accounted : engine.Accounted p ends turns)
    (kept : ∀ s s' turn, s.Sound p ends → Step engine p s turn s' → P s → P s')
    (h : play engine p s turns = some s') (start : P s) : s'.Sound p ends ∧ P s' := by
  induction turns generalizing s with
  | nil =>
      cases h
      exact ⟨sound, start⟩
  | cons turn rest ih =>
      obtain ⟨next, taken, played⟩ := Option.bind_eq_some_iff.mp h
      have step := step_of_take sound.toTidy taken
      exact ih (sound.step step (accounted turn List.mem_cons_self)) accounted.tail played
        (kept s next turn sound step start)

theorem Sound.play {turns : List Turn} (sound : s.Sound p ends)
    (accounted : engine.Accounted p ends turns) (h : play engine p s turns = some s') :
    s'.Sound p ends :=
  (play_induction (P := fun _ => True) sound accounted (fun _ _ _ _ _ _ => trivial) h trivial).1

theorem sound_of_play {turns : List Turn} (h : play engine p .initial turns = some s) :
    s.Sound p engine.anyEnd :=
  (sound_initial p _).play (engine.accounted_anyEnd p turns) h

theorem sound_of_turns {ids : List String}
    (h : play engine p .initial (engine.turns ids) = some s) : s.Sound p engine.ownEnd :=
  (sound_initial p _).play (engine.accounted_turns p ids) h

end RunState

end BuildingWorkflow
