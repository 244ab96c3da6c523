import BuildingWorkflow.Proofs.Run.Confluence

/-!
How failures spread.

A task looks at the predecessors of its node only. All the same, at the end of a run the nodes that
were passed over are those downstream of failures, near or far.
-/
namespace BuildingWorkflow

namespace Store

/-- The evaluation of the node failed. -/
def Failed (store : Store) (id : String) : Prop :=
  ∃ error errorType, store.find? id = some (.failed error errorType)

/-- The node was passed over on account of the other one. -/
def Names (store : Store) (id obstacle : String) : Prop := store.find? id = some (.blocked obstacle)

theorem Failed.not_ok {store : Store} {id : String} (h : store.Failed id) : ¬ store.ok id := by
  obtain ⟨error, errorType, found⟩ := h
  simp [ok, found, NodeResult.isError]

theorem Names.not_ok {store : Store} {id obstacle : String} (h : store.Names id obstacle) :
    ¬ store.ok id := by
  simp [ok, show store.find? id = some (.blocked obstacle) from h, NodeResult.isError]

theorem Failed.not_names {store : Store} {id obstacle : String} (h : store.Failed id) :
    ¬ store.Names id obstacle := by
  obtain ⟨error, errorType, found⟩ := h
  intro named
  cases Option.some.inj (found.symm.trans named)

end Store

namespace Justified

variable {p : Plan} {engine : Engine} {store : Store} {id : String}
  (justified : Justified p engine.anyEnd store)

include justified

/-- A marker shows that the node failed or was passed over. -/
theorem failed_or_names {result : NodeResult} (found : store.find? id = some result)
    (isError : result.isError) : store.Failed id ∨ ∃ obstacle, store.Names id obstacle := by
  obtain (valued | ⟨error, errorType, rfl⟩) | ⟨obstacle, rfl, -⟩ :=
    (justified.earned id result found).own_or_blocked
  · rw [isError] at valued
    cases valued
  · exact .inl ⟨error, errorType, found⟩
  · exact .inr ⟨obstacle, found⟩

theorem obstacle_of_names {obstacle : String} (named : store.Names id obstacle) :
    RunState.obstacle? p store id = some obstacle := by
  obtain (valued | ⟨error, errorType, same⟩) | ⟨other, same, found⟩ :=
    (justified.earned id _ named).own_or_blocked
  · cases valued
  · cases same
  · cases same
    exact found

/-- A node after one without a value is passed over. -/
theorem exists_names_of_feeds {feeder : String} (recorded : id ∈ store.keys)
    (feeds : p.Feeds feeder id) (bad : ¬ store.ok feeder) :
    ∃ obstacle, store.Names id obstacle := by
  obtain ⟨result, found⟩ := OrderedMap.exists_find? recorded
  cases justified.earned id result found with
  | blocked _ => exact ⟨_, found⟩
  | evaluated _ fed _ => exact absurd (fed.clear feeder feeds) bad

/-- Everything downstream of a node without a value is passed over. -/
theorem exists_names_of_path (o : p.Ordered) (all : ∀ id ∈ p.nodes.keys, id ∈ store.keys)
    {start : String} (bad : ¬ store.ok start) (path : Relation.TransGen p.Feeds start id) :
    ∃ obstacle, store.Names id obstacle := by
  induction path with
  | single feeds => exact justified.exists_names_of_feeds (all _ (o.known _ _ feeds)) feeds bad
  | tail _ feeds ih =>
      obtain ⟨obstacle, named⟩ := ih
      exact justified.exists_names_of_feeds (all _ (o.known _ _ feeds)) feeds named.not_ok

/-- From one obstacle to the next, the way from a node that was passed over leads to a failure. -/
theorem exists_failed_of_names (o : p.Ordered) (id : String) :
    ∀ obstacle, store.Names id obstacle → ∃ failure, store.Failed failure ∧
      Relation.TransGen store.Names id failure ∧ Relation.TransGen p.Feeds failure id := by
  refine o.induction (P := fun id => ∀ obstacle, store.Names id obstacle → ∃ failure,
    store.Failed failure ∧ Relation.TransGen store.Names id failure ∧
      Relation.TransGen p.Feeds failure id) (fun id ih obstacle named => ?_) id
  obtain ⟨feeds, bad, -⟩ := obstacle?_spec (justified.obstacle_of_names named)
  obtain ⟨result, found⟩ := OrderedMap.exists_find?
    (justified.closed id (OrderedMap.mem_keys_of_find? named) obstacle feeds)
  have isError : result.isError := by
    by_contra valued
    exact bad ((Store.ok_iff store obstacle).mpr ⟨result, found, by simpa using valued⟩)
  obtain failed | ⟨next, named'⟩ := justified.failed_or_names found isError
  · exact ⟨obstacle, failed, .single named, .single feeds⟩
  · obtain ⟨failure, failed, way, path⟩ := ih obstacle feeds next named'
    exact ⟨failure, failed, .head named way, .tail path feeds⟩

end Justified

namespace RunState

/-- At the end of a run whose evaluations are all answered, the nodes that were passed over are
those downstream of failures; no failure is downstream of another one, and nothing else is marked.
Each node that was passed over names its least predecessor without a value, and from name to name
the way ends at a failure. -/
theorem blocked_iff_downstream {draft : Draft} {w : Workflow} (valid : draft.validate = .ok w)
    {engine : Engine} (slots : 0 < engine.slots) (answering : engine.help.Answering)
    {turns : List Turn} {s : RunState} (played : play engine w.plan .initial turns = some s)
    (rest : ∀ id, s.take engine w.plan (.task id engine.help) = none) :
    s.store.keys.Perm w.nodes.keys ∧
    (∀ id, (∃ obstacle, s.store.Names id obstacle) ↔
      ∃ failure, s.store.Failed failure ∧ id ∈ w.plan.downstream failure) ∧
    (∀ failure other, s.store.Failed failure → s.store.Failed other →
      other ∉ w.plan.downstream failure) ∧
    (∀ id result, s.store.find? id = some result → result.isError →
      s.store.Failed id ∨ ∃ obstacle, s.store.Names id obstacle) ∧
    ∀ id obstacle, s.store.Names id obstacle →
      (obstacle ∈ w.plan.predecessors id ∧ ¬ s.store.ok obstacle ∧
        ∀ feeder ∈ w.plan.predecessors id, ¬ s.store.ok feeder → obstacle ≤ feeder) ∧
      ∃ failure, s.store.Failed failure ∧ Relation.TransGen s.store.Names id failure ∧
        id ∈ w.plan.downstream failure := by
  have o := Draft.ordered_of_validate valid
  have sound := sound_of_play played
  have all := sound.recorded_of_rest o slots answering rest
  have justified := sound.justified
  have spread (failure id : String) (failed : s.store.Failed failure)
      (below : id ∈ w.plan.downstream failure) : ∃ obstacle, s.store.Names id obstacle :=
    justified.exists_names_of_path o all failed.not_ok ((o.mem_downstream failure id).mp below)
  have trace (id obstacle : String) (named : s.store.Names id obstacle) :
      ∃ failure, s.store.Failed failure ∧ Relation.TransGen s.store.Names id failure ∧
        id ∈ w.plan.downstream failure := by
    obtain ⟨failure, failed, way, path⟩ := justified.exists_failed_of_names o id obstacle named
    exact ⟨failure, failed, way, (o.mem_downstream failure id).mpr path⟩
  refine ⟨justified.keys_perm all, fun id => ⟨?_, ?_⟩, ?_, ?_, fun id obstacle named => ⟨?_, ?_⟩⟩
  · rintro ⟨obstacle, named⟩
    obtain ⟨failure, failed, -, below⟩ := trace id obstacle named
    exact ⟨failure, failed, below⟩
  · rintro ⟨failure, failed, below⟩
    exact spread failure id failed below
  · intro failure other failed failed' below
    obtain ⟨obstacle, named⟩ := spread failure other failed below
    exact failed'.not_names named
  · exact fun id result found isError => justified.failed_or_names found isError
  · exact obstacle?_spec (justified.obstacle_of_names named)
  · exact trace id obstacle named

theorem blocked_watched : ∃ ids s,
    play .unprovided Workflow.watched.plan .initial (Engine.unprovided.turns ids) = some s ∧
      s.store.Names "view" "model" ∧
      ∃ failure, s.store.Failed failure ∧ "view" ∈ Workflow.watched.plan.downstream failure := by
  have o := Draft.ordered_of_validate Draft.validate_watched
  obtain ⟨ids, s, played, rest⟩ := exists_rest Engine.unprovided o
  have sound := sound_of_turns played
  have all := sound.recorded_of_rest o (by decide) Engine.answering_unprovided rest
  have untimed : Engine.unprovided.ownEnd = Plan.answeredEnd Engine.unprovided.help :=
    Engine.ownEnd_of_untimed rfl
  have named : s.store.Names "view" "model" :=
    (find?_eq_inOrder o Engine.answering_unprovided (untimed ▸ sound.justified) all "view").trans
      Plan.find?_inOrder_watched
  obtain ⟨-, spread, -⟩ := blocked_iff_downstream Draft.validate_watched (by decide)
    Engine.answering_unprovided played rest
  exact ⟨ids, s, played, named, (spread "view").mp ⟨"model", named⟩⟩

end RunState

end BuildingWorkflow
