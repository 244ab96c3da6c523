import BuildingWorkflow.Proofs.Graph.Reordering
import BuildingWorkflow.Proofs.Run.Schedule

/-!
Runs of graphs in another order.

A result rests on the results at the inlets of its node, and they come there in the order of the
names of their sources. So it does not matter in which order the nodes and edges of a graph were
submitted, even where several edges lead into one inlet.
-/
namespace BuildingWorkflow

section Transfer

variable {p p' : Plan} {ends : Account} {store : Store} (h : p.Reordered p')

include h

theorem Plan.Reordered.obstacle? (id : String) :
    RunState.obstacle? p' store id = RunState.obstacle? p store id := by
  rw [RunState.obstacle?, RunState.obstacle?, h.predecessors]

theorem Justified.reordered (regular : ends.Regular) (justified : Justified p ends store) :
    Justified p' ends store where
  known id recorded := (h.mem_keys_iff id).mpr (justified.known id recorded)
  closed id recorded feeder feeds :=
    justified.closed id recorded feeder ((h.predecessors id).symm ▸ feeds)
  earned id result found := by
    have same (inlet : String) : (p.sourcesAt id inlet).filterMap store.find? =
        (p'.sourcesAt id inlet).filterMap store.find? := by rw [h.sourcesAt]
    exact (justified.earned id result found).alike (fun _ => same) regular (h.nodes id)
      (h.obstacle? id)

end Transfer

/-- The nodes run in the same order, and runs that are not cancelled have the same results: wherever
both have one of a node, and for every node when both are over. -/
structure Workflow.RunsAlike (w w' : Workflow) : Prop where
  order : w'.order = w.order
  agree : ∀ (engine : Engine) (ids ids' : List String) (s s' : RunState),
    RunState.play engine w.plan .initial (engine.turns ids) = some s →
    RunState.play engine w'.plan .initial (engine.turns ids') = some s' →
    ∀ id result result', s.store.find? id = some result → s'.store.find? id = some result' →
      result' = result
  results : ∀ (engine : Engine) (ids ids' : List String) (s s' : RunState),
    RunState.play engine w.plan .initial (engine.turns ids) = some s →
    RunState.play engine w'.plan .initial (engine.turns ids') = some s' →
    0 < engine.slots → engine.Finishing →
    (∀ id, s.take engine w.plan (.task id engine.help) = none) →
    (∀ id, s'.take engine w'.plan (.task id engine.help) = none) →
    s.store.keys.Perm w.nodes.keys ∧ s'.store.keys.Perm w.nodes.keys ∧
      ∀ id, s'.store.find? id = s.store.find? id

/-- Graphs that are both refused, or both taken with runs that are alike. -/
inductive TakenAlike : Except Fault Workflow → Except Fault Workflow → Prop
  | taken {w w' : Workflow} (alike : w.RunsAlike w') : TakenAlike (.ok w) (.ok w')
  | refused (fault fault' : Fault) : TakenAlike (.error fault) (.error fault')

namespace Draft.Reordered

variable {draft draft' : Draft} {w w' : Workflow} (h : draft.Reordered draft')

include h

theorem runsAlike (valid : draft.validate = .ok w) (valid' : draft'.validate = .ok w') :
    w.RunsAlike w' := by
  have o := ordered_of_validate valid
  have o' := ordered_of_validate valid'
  have same := h.plan valid valid'
  refine ⟨h.order valid valid', ?_, ?_⟩
  · intro engine ids ids' s s' played played' id result result' found found'
    have justified := (RunState.sound_of_turns played).justified
    have justified' := (RunState.sound_of_turns played').justified
    exact justified'.agree o' engine.ownEnd_functional
      (justified.reordered same engine.regular_ownEnd) id result' result found' found
  · intro engine ids ids' s s' played played' slots finishing rest rest'
    have sound := RunState.sound_of_turns played
    have sound' := RunState.sound_of_turns played'
    have all := sound.recorded_of_finishing o slots finishing rest
    have all' := sound'.recorded_of_finishing o' slots finishing rest'
    have keys : w'.nodes.keys.Perm w.nodes.keys := by
      rw [validate_keys valid, validate_keys valid']
      exact h.ids.symm
    refine ⟨sound.justified.keys_perm all, (sound'.justified.keys_perm all').trans keys, ?_⟩
    exact sound'.justified.find?_eq o' engine.ownEnd_functional
      (sound.justified.reordered same engine.regular_ownEnd) all'
      fun id known => all id ((same.mem_keys_iff id).mp known)

theorem takenAlike : TakenAlike draft.validate draft'.validate := by
  cases valid : draft.validate with
  | ok w =>
      obtain ⟨w', valid'⟩ := h.exists_validate valid
      rw [valid']
      exact .taken (h.runsAlike valid valid')
  | error fault =>
      cases valid' : draft'.validate with
      | ok w' =>
          obtain ⟨w, taken⟩ := h.symm.exists_validate valid'
          rw [valid] at taken
          cases taken
      | error fault' => exact .refused fault fault'

end Draft.Reordered

theorem Workflow.ofDocument_eq {document : Value} {draft : Draft}
    (read : Draft.ofDocument document = .ok draft) :
    Workflow.ofDocument document = draft.validate := by
  rw [Workflow.ofDocument, read]
  rfl

/-- The order of nodes and edges in a document or graph is of no account: it is taken in any order
or in none, and its nodes run in the same order and with the same results. -/
theorem takenAlike_of_reordered :
    (∀ draft draft' : Draft, draft.Reordered draft' →
      TakenAlike draft.validate draft'.validate) ∧
    ∀ bag bag' : Bag, bag.Reordered bag' →
      TakenAlike (Workflow.ofDocument (.map bag)) (Workflow.ofDocument (.map bag')) := by
  refine ⟨fun draft draft' same => same.takenAlike, fun bag bag' same => ?_⟩
  cases read : Draft.ofDocument (.map bag) with
  | ok draft =>
      obtain ⟨draft', read', reordered⟩ := same.exists_ofDocument read
      rw [Workflow.ofDocument_eq read, Workflow.ofDocument_eq read']
      exact reordered.takenAlike
  | error fault =>
      cases read' : Draft.ofDocument (.map bag') with
      | ok draft' =>
          obtain ⟨draft, read'', -⟩ := same.symm.exists_ofDocument read'
          rw [read] at read''
          cases read''
      | error fault' =>
          rw [Workflow.ofDocument, Workflow.ofDocument, read, read']
          exact .refused fault fault'

/-- A document with a model that is watched; the nodes are listed in a given order. -/
def Bag.watched (order : List Value → List Value) : Bag :=
  [("nodes", .list (order [.map [("id", .text "model"), ("kind", .text "source")],
      .map [("id", .text "view"), ("kind", .text "watch")]])),
    ("edges", .list [.map [("source", .text "model"), ("target", .text "view")]])]

theorem takenAlike_watched : (Bag.watched id).Reordered (Bag.watched List.reverse) ∧
    ∃ w, Workflow.ofDocument (.map (Bag.watched List.reverse)) = .ok w ∧
      w.order = ["model", "view"] ∧ Workflow.watched.RunsAlike w := by
  have reordered : (Bag.watched id).Reordered (Bag.watched List.reverse) :=
    ⟨.some (.list (List.reverse_perm _).symm), .some (.same _)⟩
  have read : Draft.ofDocument (.map (Bag.watched id)) = .ok Draft.watched := rfl
  have alike := takenAlike_of_reordered.2 _ _ reordered
  rw [Workflow.ofDocument_eq read, Draft.validate_watched] at alike
  refine ⟨reordered, ?_⟩
  generalize Workflow.ofDocument (.map (Bag.watched List.reverse)) = outcome at alike
  cases alike with
  | taken alike =>
      have order : Workflow.watched.order = ["model", "view"] := by decide +kernel
      exact ⟨_, rfl, alike.order.trans order, alike⟩

end BuildingWorkflow
