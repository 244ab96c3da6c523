import BuildingWorkflow.Proofs.Run.Confluence

/-!
Runs that are cancelled.

A run may be cancelled before it starts, between any two turns, or when all is over. What has a
result by then keeps it, the rest is marked, and whatever lies downstream of a mark is marked too.
-/
namespace BuildingWorkflow
namespace RunState

/-! ## Marks -/

theorem find?_foldl_mark (ids : List String) (store : Store) (id : String) :
    (ids.foldl (fun store id =>
      if store.contains id then store else store.insert id .cancelled) store).find? id =
      (store.find? id).or (if id ∈ ids then some .cancelled else none) := by
  induction ids generalizing store with
  | nil => simp
  | cons first rest ih =>
      rw [List.foldl_cons, ih]
      by_cases recorded : first ∈ store.keys
      · rw [if_pos ((OrderedMap.contains_iff store first).mpr recorded)]
        by_cases same : id = first
        · obtain ⟨result, found⟩ := OrderedMap.exists_find? recorded
          rw [same, found, Option.some_or, Option.some_or]
        · simp only [List.mem_cons, same, false_or]
      · have absent := (OrderedMap.contains_iff store first).not.mpr recorded
        rw [if_neg absent, OrderedMap.find?_insert]
        by_cases same : id = first
        · rw [same, (OrderedMap.find?_eq_none_iff store first).mpr recorded, if_pos rfl,
            if_pos List.mem_cons_self, Option.some_or, Option.none_or]
        · simp only [List.mem_cons, same, if_false, false_or]

theorem find?_cancelRest (p : Plan) (store : Store) (id : String) : (cancelRest p store).find? id =
    (store.find? id).or (if id ∈ p.order then some .cancelled else none) :=
  find?_foldl_mark p.order store id

variable {engine : Engine} {p : Plan} {ends : Account} {s : RunState} {report : Report}

/-- A report has the results that there are, and marks for the nodes without one. -/
theorem find?_of_reports (o : p.Ordered) (sound : s.Sound p ends) (reports : s.Reports p report)
    (id : String) : report.results.find? id =
      (s.store.find? id).or (if id ∈ p.order then some .cancelled else none) := by
  cases reports with
  | stopped => exact find?_cancelRest p s.store id
  | finished complete =>
      by_cases known : id ∈ p.order
      · have ended := (complete_iff o).mp complete id ((o.mem_order id).mp known)
        obtain ⟨result, found⟩ := OrderedMap.exists_find? (sound.mem_keys_iff.mpr ended)
        rw [finished, found, Option.some_or]
      · rw [if_neg known, Option.or_none, finished]

theorem keys_of_reports (o : p.Ordered) (sound : s.Sound p ends) (reports : s.Reports p report) :
    report.results.keys.Perm p.nodes.keys := by
  refine (List.perm_ext_iff_of_nodup report.results.nodup_keys p.nodes.nodup_keys).mpr fun id => ?_
  have found := find?_of_reports o sound reports id
  rw [← o.mem_order]
  constructor
  · intro member
    by_contra unknown
    have recorded : id ∈ s.store.keys := by
      obtain ⟨result, isResult⟩ := OrderedMap.exists_find? member
      rw [isResult, if_neg unknown, Option.or_none] at found
      exact OrderedMap.mem_keys_of_find? found.symm
    exact unknown ((o.mem_order id).mpr (sound.justified.known id recorded))
  · intro known
    rw [if_pos known] at found
    cases isResult : s.store.find? id with
    | none =>
        rw [isResult, Option.none_or] at found
        exact OrderedMap.mem_keys_of_find? found
    | some result =>
        rw [isResult, Option.some_or] at found
        exact OrderedMap.mem_keys_of_find? found

theorem ne_cancelled (sound : s.Sound p engine.anyEnd) {id : String} {result : NodeResult}
    (found : s.store.find? id = some result) : result ≠ .cancelled := by
  obtain own | ⟨obstacle, rfl, -⟩ := (sound.justified.earned id result found).own_or_blocked
  · exact own.ne_cancelled
  · exact nofun

theorem unmarked_iff (o : p.Ordered) (sound : s.Sound p engine.anyEnd)
    (reports : s.Reports p report) (id : String) (result : NodeResult) :
    report.results.find? id = some result ∧ result ≠ .cancelled ↔
      s.store.find? id = some result := by
  rw [find?_of_reports o sound reports]
  constructor
  · rintro ⟨found, unmarked⟩
    obtain kept | ⟨-, marked⟩ := Option.or_eq_some_iff.mp found
    · exact kept
    · rw [Option.ite_none_right_eq_some, Option.some.injEq] at marked
      exact absurd marked.2.symm unmarked
  · intro found
    exact ⟨Option.or_eq_some_iff.mpr (.inl found), ne_cancelled sound found⟩

theorem marked_iff (o : p.Ordered) (sound : s.Sound p engine.anyEnd)
    (reports : s.Reports p report) (id : String) :
    report.results.find? id = some .cancelled ↔ id ∈ p.nodes.keys ∧ id ∉ s.store.keys := by
  rw [find?_of_reports o sound reports, ← o.mem_order]
  constructor
  · intro found
    obtain kept | ⟨absent, marked⟩ := Option.or_eq_some_iff.mp found
    · exact absurd rfl (ne_cancelled sound kept)
    · rw [Option.ite_none_right_eq_some] at marked
      exact ⟨marked.1, (OrderedMap.find?_eq_none_iff _ _).mp absent⟩
  · rintro ⟨known, absent⟩
    rw [(OrderedMap.find?_eq_none_iff _ _).mpr absent, if_pos known, Option.none_or]

/-! ## Results that stay -/

theorem find?_of_play {turns : List Turn} {t : RunState} (sound : s.Sound p engine.anyEnd)
    (played : play engine p s turns = some t) {id : String} {result : NodeResult}
    (found : s.store.find? id = some result) : t.store.find? id = some result :=
  (play_induction (P := fun t => t.store.find? id = some result) sound
    (engine.accounted_anyEnd p turns) (fun _ _ _ sound step found => step.find?_store sound found)
    played found).2

/-- A report of a run that is cancelled at any time, or never, has one result for each node. Those
that are no marks of cancelling stay when the run goes on, and are the same in every other run. They
are closed under predecessors, so whatever is downstream of a mark is marked. A run that is not
reported as cancelled has no marks. -/
theorem results_of_cancelled {draft : Draft} {w : Workflow} (valid : draft.validate = .ok w)
    {engine : Engine} {ids : List String} {s : RunState}
    (played : play engine w.plan .initial (engine.turns ids) = some s) {report : Report}
    (reports : s.Reports w.plan report) :
    report.results.keys.Perm w.nodes.keys ∧
    (∀ id result, report.results.find? id = some result → result ≠ .cancelled →
      (∀ more t, play engine w.plan s (engine.turns more) = some t →
        t.store.find? id = some result) ∧
      (∀ others t, play engine w.plan .initial (engine.turns others) = some t → id ∈ t.ended →
        t.store.find? id = some result) ∧
      ∀ feeder ∈ w.plan.predecessors id, ∃ result',
        report.results.find? feeder = some result' ∧ result' ≠ .cancelled) ∧
    (∀ id, report.results.find? id = some .cancelled → ∀ below ∈ w.plan.downstream id,
      report.results.find? below = some .cancelled) ∧
    (report.cancelled = false → ∀ id, report.results.find? id ≠ some .cancelled) := by
  have o := Draft.ordered_of_validate valid
  have sound := sound_of_play played
  have settled := sound_of_turns played
  refine ⟨keys_of_reports o sound reports, fun id result found unmarked => ?_,
    fun id marked below downstream => ?_, fun uncancelled id marked => ?_⟩
  · have kept := (unmarked_iff o sound reports id result).mp ⟨found, unmarked⟩
    refine ⟨fun more t played' => find?_of_play sound played' kept,
      fun others t played' ended => ?_, fun feeder feeds => ?_⟩
    · have settled' := sound_of_turns played'
      obtain ⟨result', found'⟩ := OrderedMap.exists_find? (settled'.mem_keys_iff.mpr ended)
      rw [found', settled.justified.agree o engine.ownEnd_functional settled'.justified id
        result result' kept found']
    · obtain ⟨result', found'⟩ := OrderedMap.exists_find?
        (sound.justified.closed id (OrderedMap.mem_keys_of_find? kept) feeder feeds)
      exact ⟨result', (unmarked_iff o sound reports feeder result').mpr found'⟩
  · have path := (o.mem_downstream id below).mp downstream
    refine (marked_iff o sound reports below).mpr ⟨o.known_of_transGen path, fun recorded => ?_⟩
    exact ((marked_iff o sound reports id).mp marked).2 (sound.justified.mem_of_path path recorded)
  · cases reports with
    | stopped => cases uncancelled
    | finished complete => exact ne_cancelled sound marked rfl

theorem results_of_cancelled_watched :
    (initial.stopped Workflow.watched.plan).results.keys.Perm ["model", "view"] ∧
      (initial.stopped Workflow.watched.plan).results.find? "view" = some .cancelled := by
  have played : play .unprovided Workflow.watched.plan .initial (Engine.unprovided.turns []) =
    some .initial := rfl
  obtain ⟨keys, -, spread, -⟩ := results_of_cancelled Draft.validate_watched played .stopped
  exact ⟨keys, spread "model" rfl "view" (by decide +kernel)⟩

end RunState

end BuildingWorkflow
