import BuildingWorkflow.Proofs.Graph.Rerouting
import BuildingWorkflow.Proofs.Run.Schedule

/-!
Runs through a watch.

A watch ends with the value that feeds it, whatever kind of value that is, or it is passed over. So
the target of an edge that leads through a watch gets what the source would have fed it, and all
results stay. Only a target that is passed over may name the watch, or another predecessor than the
source that is no longer there.
-/
namespace BuildingWorkflow

/-! ## What a watch passes on -/

theorem Value.labelled_labelled (v : Value) {label : String} (named : label ≠ "") (other : String) :
    (v.labelled label).labelled other = v.labelled label := by
  cases v with
  | float x =>
      cases x with
      | nan old =>
          by_cases new : old = ""
          · simp [labelled, Binary64.labelled, new, named]
          · simp [labelled, Binary64.labelled, new]
      | _ => rfl
  | _ => rfl

/-- A result that went through one node is not labelled by the next. -/
theorem NodeResult.labelled_labelled (result : NodeResult) (id other : String) :
    (result.labelled id).labelled other = result.labelled id := by
  have named : "result of " ++ id ≠ "" := by simp
  cases result with
  | aggregate values unit =>
      simp [labelled, OrderedMap.map, OrderedMap.mapEntries, Value.labelled_labelled _ named]
  | value v => simp [labelled, Value.labelled_labelled v named]
  | _ => rfl

namespace Engine

variable {engine : Engine} {node : Node} {inputs : Inputs} {result : NodeResult}

theorem labelled_of_result? (h : engine.result? node inputs = some result) (other : String) :
    result.labelled other = result := by
  simp only [result?, Option.or_eq_some_iff, Collaborators.result?] at h
  obtain answered | ⟨-, given⟩ := h
  · split at answered
    · cases answered
      exact NodeResult.labelled_labelled _ node.id other
    · cases answered
      simp only [failureOf]
      split <;> rfl
    · cases answered
  · obtain ⟨seconds, -, rfl⟩ := Option.map_eq_some_iff.mp given
    rfl

theorem result?_watch {o : WatchOptions} (watch : node.options = .watch o)
    (single : inputs.results mainInlet = [result]) :
    engine.result? node inputs = some (result.labelled node.id) := by
  simp [result?, Collaborators.result?, watch, NodeOptions.evaluate, passThrough, single,
    Answer.ofExcept]

end Engine

/-! ## Values that stay -/

/-- Two stores have the same value of a node, or none. -/
def Store.SameValue (store store' : Store) (id : String) : Prop :=
  ∀ result : NodeResult, result.isError = false →
    (store.find? id = some result ↔ store'.find? id = some result)

namespace Store.SameValue

variable {store store' : Store} {id : String} (same : store.SameValue store' id)

include same

theorem ok_eq : store'.ok id = store.ok id := by
  rw [Bool.eq_iff_iff, ok_iff, ok_iff]
  constructor
  · intro ok
    obtain ⟨result, found, valued⟩ := ok
    exact ⟨result, (same result valued).mpr found, valued⟩
  · intro ok
    obtain ⟨result, found, valued⟩ := ok
    exact ⟨result, (same result valued).mp found, valued⟩

theorem find?_eq (ok : store.ok id) : store.find? id = store'.find? id := by
  obtain ⟨result, found, valued⟩ := (ok_iff store id).mp ok
  rw [found, (same result valued).mp found]

end Store.SameValue

/-- The same values of what feeds a node come to its inlets. -/
theorem Store.filterMap_sourcesAt {p : Plan} {store store' : Store} {id : String}
    (values : ∀ feeder ∈ p.predecessors id, store.SameValue store' feeder)
    (clear : ∀ feeder ∈ p.predecessors id, store.ok feeder) (inlet : String) :
    (p.sourcesAt id inlet).filterMap store.find? =
      (p.sourcesAt id inlet).filterMap store'.find? := by
  apply List.filterMap_congr
  intro feeder member
  have feeds := Plan.feeds_of_mem_sourcesAt member
  exact (values feeder feeds).find?_eq (clear feeder feeds)

section Agreement

variable {p p' : Plan} {ends : Account} {store store' : Store} {id : String}
  (functional : ∀ node inputs r r', ends node inputs r → ends node inputs r' → r = r')
  (regular : ends.Regular)

include functional regular

/-- Two plans that feed a node the same values have one result of it. -/
theorem Earned.agree_of_values (node : p'.nodes.find? id = p.nodes.find? id)
    (obstacles : RunState.obstacle? p' store' id = RunState.obstacle? p store id)
    (inlets : (∀ feeder ∈ p.predecessors id, store.ok feeder) → ∀ inlet,
      (p.sourcesAt id inlet).filterMap store.find? = (p'.sourcesAt id inlet).filterMap store'.find?)
    {result result' : NodeResult} (earned : Earned p ends store id result)
    (earned' : Earned p' ends store' id result') : result = result' :=
  (earned.alike inlets regular node obstacles).agree (fun _ _ => rfl) functional earned'

end Agreement

/-- The results of one node without a watch and with it. They are the same, unless the node is the
target: that may be passed over on account of the watch, or of another predecessor than the
source. -/
inductive Plan.Kept (p : Plan) (e : Edge) (watch : String) (store : Store) (id : String) :
    NodeResult → NodeResult → Prop
  | same (result : NodeResult) : Kept p e watch store id result result
  | watched {obstacle : String} (here : id = e.target) (failed : ¬ store.ok e.source) :
      Kept p e watch store id (.blocked obstacle) (.blocked watch)
  | another {obstacle : String} (here : id = e.target) (feeds : p.Feeds obstacle e.target)
      (failed : ¬ store.ok obstacle) :
      Kept p e watch store id (.blocked e.source) (.blocked obstacle)

theorem Plan.Kept.sameValue {p : Plan} {e : Edge} {watch id : String} {store old new : Store}
    {result result' : NodeResult} (h : p.Kept e watch store id result result')
    (found : old.find? id = some result) (found' : new.find? id = some result') :
    old.SameValue new id := by
  intro value valued
  rw [found, found', Option.some.injEq, Option.some.injEq]
  cases h with
  | same => rfl
  | watched _ _ | another _ _ _ =>
      constructor <;>
        · rintro rfl
          cases valued

namespace Plan.Rerouted

variable {p p' : Plan} {e : Edge} {watch : String} {engine : Engine} {store store' : Store}
  (h : p.Rerouted p' e watch) (justified' : Justified p' engine.ownEnd store')

include h justified'

/-- A watch has the value of what feeds it. -/
theorem result_watch {result : NodeResult} (found : store'.find? watch = some result) :
    ∃ before, store'.find? e.source = some before ∧
      result = if before.isError then .blocked e.source else before := by
  have feeds : p'.Feeds e.source watch := h.feeds_watch_iff.mpr rfl
  obtain ⟨before, fed⟩ := OrderedMap.exists_find?
    (justified'.closed watch (OrderedMap.mem_keys_of_find? found) e.source feeds)
  refine ⟨before, fed, ?_⟩
  cases justified'.earned watch result found with
  | @blocked obstacle blockedBy =>
      obtain ⟨feeder, failed, -⟩ := obstacle?_spec blockedBy
      rw [h.feeds_watch_iff.mp feeder] at failed ⊢
      have bad : before.isError := by simpa [Store.ok, fed] using failed
      rw [if_pos bad]
  | @evaluated node inputs _ known gathered ended =>
      have valued : before.isError = false := by
        simpa [Store.ok, fed] using gathered.clear e.source feeds
      have single : inputs.results mainInlet = [before] := by
        rw [Plan.results_inputsFor gathered.gathered, h.sourcesAt_watch]
        simp [fed]
      obtain ⟨watchNode, o, known', watches⟩ := h.passes
      cases Option.some.inj (known.symm.trans known')
      have answer := Option.some.inj (ended.symm.trans (Engine.result?_watch watches single))
      rw [valued, answer]
      -- What feeds the watch was labelled by its own node.
      cases justified'.earned e.source before fed with
      | blocked _ => cases valued
      | evaluated _ _ ended' => exact Engine.labelled_of_result? ended' _

theorem ok_watch (recorded : watch ∈ store'.keys) : store'.ok watch = store'.ok e.source := by
  obtain ⟨result, found⟩ := OrderedMap.exists_find? recorded
  obtain ⟨before, fed, same⟩ := h.result_watch justified' found
  simp only [Store.ok, found, fed, Option.elim_some, same]
  split
  · rename_i bad
    rw [bad]
    rfl
  · rfl

theorem find?_watch (recorded : watch ∈ store'.keys) (ok : store'.ok e.source) :
    store'.find? watch = store'.find? e.source := by
  obtain ⟨result, found⟩ := OrderedMap.exists_find? recorded
  obtain ⟨before, fed, same⟩ := h.result_watch justified' found
  have valued : before.isError = false := by simpa [Store.ok, fed] using ok
  rw [found, fed, same, valued]
  rfl

/-- Away from the watch and the target, the same values bring about the same result. -/
theorem kept_elsewhere {id : String} (notWatch : id ≠ watch) (notTarget : id ≠ e.target)
    (values : ∀ feeder ∈ p.predecessors id, store.SameValue store' feeder)
    {result result' : NodeResult} (earned : Earned p engine.ownEnd store id result)
    (found' : store'.find? id = some result') : result = result' := by
  refine earned.agree_of_values engine.ownEnd_functional engine.regular_ownEnd
    (h.nodes id notWatch) ?_ ?_ (justified'.earned id result' found')
  · rw [RunState.obstacle?, RunState.obstacle?, ← h.predecessors_elsewhere notWatch notTarget]
    apply List.find?_congr
    intro feeder feeds
    rw [(values feeder feeds).ok_eq]
  · intro clear inlet
    rw [← h.sourcesAt_elsewhere notWatch notTarget]
    exact Store.filterMap_sourcesAt values clear inlet

section Target

variable (recorded : e.target ∈ store'.keys)

include recorded

theorem watch_recorded : watch ∈ store'.keys :=
  justified'.closed e.target recorded watch h.watch_feeds_target

variable (values : ∀ feeder ∈ p.predecessors e.target, store.SameValue store' feeder)

include values

theorem clear_target_iff : (∀ feeder ∈ p'.predecessors e.target, store'.ok feeder) ↔
    ∀ feeder ∈ p.predecessors e.target, store.ok feeder := by
  have watched := h.ok_watch justified' (h.watch_recorded justified' recorded)
  constructor
  · intro clear feeder feedsOld
    rw [← (values feeder feedsOld).ok_eq]
    obtain rfl | feedsNew := h.feeds_or_source feedsOld
    · exact watched ▸ clear watch h.watch_feeds_target
    · exact clear feeder feedsNew
  · intro clear feeder feedsNew
    obtain rfl | feedsOld := h.feeds_of_feeds feedsNew
    · rw [watched, (values e.source h.feeds_target).ok_eq]
      exact clear e.source h.feeds_target
    · rw [(values feeder feedsOld).ok_eq]
      exact clear feeder feedsOld

/-- The watch brings to its inlet what the source brought there. -/
theorem filterMap_sourcesAt_target (clear : ∀ feeder ∈ p.predecessors e.target, store.ok feeder)
    (inlet : String) : (p.sourcesAt e.target inlet).filterMap store.find? =
      (p'.sourcesAt e.target inlet).filterMap store'.find? := by
  by_cases here : inlet = e.inlet
  · have source := values e.source h.feeds_target
    have ok := clear e.source h.feeds_target
    have watched := h.find?_watch justified' (h.watch_recorded justified' recorded)
      (source.ok_eq ▸ ok)
    rw [here, h.sourcesAt_inlet, h.sourcesAt_inlet']
    simp only [List.filterMap_cons, source.find?_eq ok, watched]
    rfl
  · rw [← h.sourcesAt_otherwise here]
    exact Store.filterMap_sourcesAt values clear inlet

/-- A target that is passed over is passed over with the watch too. -/
theorem kept_blocked {obstacle obstacle' : String}
    (found : RunState.obstacle? p store e.target = some obstacle)
    (found' : RunState.obstacle? p' store' e.target = some obstacle') :
    p.Kept e watch store' e.target (.blocked obstacle) (.blocked obstacle') := by
  obtain ⟨feeds, failed, least⟩ := obstacle?_spec found
  obtain ⟨feeds', failed', least'⟩ := obstacle?_spec found'
  obtain rfl | feedsOld := h.feeds_of_feeds feeds'
  · rw [h.ok_watch justified' (h.watch_recorded justified' recorded)] at failed'
    exact .watched rfl failed'
  · obtain rfl | feedsNew := h.feeds_or_source feeds
    · exact .another rfl feedsOld failed'
    · have below := least obstacle' feedsOld ((values _ feedsOld).ok_eq ▸ failed')
      have below' := least' obstacle feedsNew ((values _ feeds).ok_eq ▸ failed)
      rw [le_antisymm below below']
      exact .same _

theorem kept_target {result result' : NodeResult}
    (earned : Earned p engine.ownEnd store e.target result)
    (found' : store'.find? e.target = some result') :
    p.Kept e watch store' e.target result result' := by
  have clears := h.clear_target_iff justified' recorded values
  have earned' := justified'.earned e.target result' found'
  rw [← obstacle?_eq_none_iff, ← obstacle?_eq_none_iff] at clears
  cases found : RunState.obstacle? p store e.target with
  | some obstacle =>
      obtain ⟨obstacle', blockedBy⟩ : ∃ obstacle', RunState.obstacle? p' store' e.target =
          some obstacle' := by
        rw [← Option.ne_none_iff_exists']
        exact fun none => by simp [clears.mp none] at found
      rw [earned.eq_blocked found, earned'.eq_blocked blockedBy]
      exact h.kept_blocked justified' recorded values found blockedBy
  | none =>
      have same : result = result' :=
        earned.agree_of_values engine.ownEnd_functional engine.regular_ownEnd
          (h.nodes e.target (h.apart e h.member).2) ((clears.mpr found).trans found.symm)
          (h.filterMap_sourcesAt_target justified' recorded values) earned'
      exact same ▸ .same result

end Target

/-- Whatever is recorded in both runs is kept. -/
theorem kept (o : p.Ordered) (justified : Justified p engine.ownEnd store) :
    ∀ id result result', store.find? id = some result → store'.find? id = some result' →
      p.Kept e watch store' id result result' := by
  -- Along the edges of the old plan: what feeds a node has the same values in both runs.
  refine o.induction fun id ih result result' found found' => ?_
  have recorded := OrderedMap.mem_keys_of_find? found
  have recorded' := OrderedMap.mem_keys_of_find? found'
  have notWatch : id ≠ watch := fun same => h.fresh (same ▸ justified.known id recorded)
  have values (fed' : ∀ feeder ∈ p.predecessors id, feeder ∈ store'.keys) :
      ∀ feeder ∈ p.predecessors id, store.SameValue store' feeder := by
    intro feeder feeds
    obtain ⟨r, fed⟩ := OrderedMap.exists_find? (justified.closed id recorded feeder feeds)
    obtain ⟨r', fed'⟩ := OrderedMap.exists_find? (fed' feeder feeds)
    exact (ih feeder feeds r r' fed fed').sameValue fed fed'
  have earned := justified.earned id result found
  by_cases here : id = e.target
  · subst here
    refine h.kept_target justified' recorded' (values fun feeder feeds => ?_) earned found'
    obtain rfl | feeds := h.feeds_or_source feeds
    · have watched := h.watch_recorded justified' recorded'
      exact justified'.closed watch watched _ (h.feeds_watch_iff.mpr rfl)
    · exact justified'.closed _ recorded' feeder feeds
  · have fed' : ∀ feeder ∈ p.predecessors id, feeder ∈ store'.keys := by
      rw [h.predecessors_elsewhere notWatch here]
      exact justified'.closed id recorded'
    rw [h.kept_elsewhere justified' notWatch here (values fed') earned found']
    exact .same result'

end Plan.Rerouted

namespace RunState

/-- An edge into an inlet that takes no other may lead through a new watch. The graph is taken all
the same, and its nodes keep their results, but for what the target names when it is passed over.
The watch has the value of the source, or is passed over on account of it. -/
theorem results_of_rerouted {draft draft' : Draft} {w : Workflow} {e : Edge} {watch : DraftNode}
    (valid : draft.validate = .ok w) (rerouted : draft.Rerouted e watch draft') :
    ∃ w', draft'.validate = .ok w' ∧
      ∀ (engine : Engine) (ids ids' : List String) (s s' : RunState),
        play engine w.plan .initial (engine.turns ids) = some s →
        play engine w'.plan .initial (engine.turns ids') = some s' →
        (∀ id result result', s.store.find? id = some result → s'.store.find? id = some result' →
          w.plan.Kept e watch.id s'.store id result result') ∧
        (∀ result, s'.store.find? watch.id = some result →
          ∃ before, s'.store.find? e.source = some before ∧
            result = if before.isError then .blocked e.source else before) ∧
        (0 < engine.slots → engine.Finishing →
          (∀ id, s.take engine w.plan (.task id engine.help) = none) →
          (∀ id, s'.take engine w'.plan (.task id engine.help) = none) →
          s.store.keys.Perm draft.ids ∧ s'.store.keys.Perm (watch.id :: draft.ids)) := by
  obtain ⟨w', valid'⟩ := rerouted.exists_validate valid
  refine ⟨w', valid', fun engine ids ids' s s' played played' => ?_⟩
  have through := rerouted.plan valid valid'
  have o := Draft.ordered_of_validate valid
  have o' := Draft.ordered_of_validate valid'
  have sound := sound_of_turns played
  have sound' := sound_of_turns played'
  refine ⟨through.kept sound'.justified o sound.justified, ?_, ?_⟩
  · intro result found
    exact through.result_watch sound'.justified found
  · intro slots finishing rest rest'
    have keys := sound.justified.keys_perm (sound.recorded_of_finishing o slots finishing rest)
    have keys' := sound'.justified.keys_perm (sound'.recorded_of_finishing o' slots finishing rest')
    rw [← Draft.validate_keys valid]
    refine ⟨keys, keys'.trans ?_⟩
    have all : w'.nodes.keys.Perm (watch.id :: draft.ids) := by
      rw [Draft.validate_keys valid']
      exact rerouted.ids
    rwa [← Draft.validate_keys valid] at all

theorem results_of_rerouted_picked : ∃ w w' ids ids' s s',
    Draft.picked.validate = .ok w ∧ Draft.pickedWatched.validate = .ok w' ∧
      play .unprovided w.plan .initial (Engine.unprovided.turns ids) = some s ∧
      play .unprovided w'.plan .initial (Engine.unprovided.turns ids') = some s' ∧
      s.store.keys.Perm ["model", "pick"] ∧ s'.store.keys.Perm ["view", "model", "pick"] ∧
      ∃ before, s'.store.find? "model" = some before ∧
        s'.store.find? "view" = some (if before.isError then .blocked "model" else before) := by
  obtain ⟨w, valid⟩ := Draft.exists_validate_iff.mpr ⟨Draft.wellFormed_picked, Draft.acyclic_picked⟩
  obtain ⟨w', valid', alike⟩ := results_of_rerouted valid Draft.rerouted_picked
  obtain ⟨ids, s, played, rest⟩ := exists_rest .unprovided (Draft.ordered_of_validate valid)
  obtain ⟨ids', s', played', rest'⟩ := exists_rest .unprovided (Draft.ordered_of_validate valid')
  obtain ⟨-, watched, atEnd⟩ := alike .unprovided ids ids' s s' played played'
  obtain ⟨keys, keys'⟩ := atEnd (by decide) (.inl Engine.answering_unprovided) rest rest'
  obtain ⟨result, found⟩ := OrderedMap.exists_find? (keys'.mem_iff.mpr List.mem_cons_self)
  obtain ⟨before, fed, rfl⟩ := watched result found
  exact ⟨w, w', ids, ids', s, s', valid, valid', played, played', keys, keys', before, fed, found⟩

end RunState

end BuildingWorkflow
