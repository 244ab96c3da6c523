import BuildingWorkflow.Proofs.Node.Identity
import BuildingWorkflow.Proofs.Run.Cancellation

/-!
Where elements come from.

Elements enter a run with the models that sources are given, and go along the edges from there. So
every element of a result is one of such a model, whatever else happens in the run: failures, clocks
that run out, cancelling, or collaborators that never answer twice alike.
-/
namespace BuildingWorkflow

/-- A node is another one, or upstream of it. -/
def Plan.Above (p : Plan) (source id : String) : Prop := source = id ∨ id ∈ p.downstream source

theorem Plan.Ordered.above_of_feeds {p : Plan} (o : p.Ordered) {source feeder id : String}
    (above : p.Above source feeder) (feeds : p.Feeds feeder id) : p.Above source id := by
  refine .inr ((o.mem_downstream source id).mpr ?_)
  cases above with
  | inl same => exact same ▸ .single feeds
  | inr below => exact ((o.mem_downstream source feeder).mp below).tail feeds

/-- In one of some turns the provider returned a model to a source, and that is the result. -/
structure Supplied (p : Plan) (turns : List Turn) (results : Store) (source : String)
    (model : Model) : Prop where
  asked : ∃ node o help, p.nodes.find? source = some node ∧ node.options = .source o ∧
    Turn.task source help ∈ turns ∧ help.provider o.model = .value model
  given : results.find? source = some (.elements ⟨model.elements, some model⟩)

/-- What is in a collection at a node is in models that were given to the node or upstream of it,
and so is the model of the collection. -/
structure Traced (p : Plan) (turns : List Turn) (results : Store) (id : String)
    (c : Collection) : Prop where
  elements : ∀ e ∈ c.elements, ∃ source model, p.Above source id ∧
    Supplied p turns results source model ∧ ∃ origin ∈ model.elements, e.identity = origin.identity
  model : ∀ model, c.model = some model →
    ∃ source, p.Above source id ∧ Supplied p turns results source model

theorem Traced.mono {p : Plan} {turns : List Turn} {store results : Store} {id : String}
    {c : Collection} (kept : ∀ id result, store.find? id = some result →
      results.find? id = some result) (h : Traced p turns store id c) :
    Traced p turns results id c where
  elements e member := by
    obtain ⟨source, model, above, ⟨asked, given⟩, origin⟩ := h.elements e member
    exact ⟨source, model, above, ⟨asked, kept _ _ given⟩, origin⟩
  model model known := by
    obtain ⟨source, above, ⟨asked, given⟩⟩ := h.model model known
    exact ⟨source, above, asked, kept _ _ given⟩

/-! ## Evaluations -/

theorem NodeResult.eq_elements_of_labelled {result : NodeResult} {id : String} {c : Collection}
    (h : result.labelled id = .elements c) : result = .elements c := by
  cases result <;> simp_all [labelled]

namespace Engine

/-- How evaluations may end in some turns. -/
def endedBy (engine : Engine) (turns : List Turn) : Account := fun node inputs result =>
  ∃ turn ∈ turns, turn.id = node.id ∧ engine.answer? turn node inputs = some result

variable {engine : Engine} {p : Plan} {turns : List Turn}

theorem accounted_endedBy (named : ∀ id node, p.nodes.find? id = some node → node.id = id) :
    engine.Accounted p (engine.endedBy turns) turns := by
  intro turn member node found inputs result answer
  exact ⟨turn, member, (named _ _ found).symm, answer⟩

theorem elements_of_answer? {turn : Turn} {node : Node} {inputs : Inputs} {c : Collection}
    (h : engine.answer? turn node inputs = some (.elements c)) :
    (∃ help o model, turn = .task turn.id help ∧ node.options = .source o ∧
      help.provider o.model = .value model ∧ c = ⟨model.elements, some model⟩) ∨
    node.kind ≠ .source ∧ ∃ source, inputs.main = .ok source ∧ c.Within source := by
  cases turn with
  | expiry id =>
      obtain ⟨seconds, -, expired⟩ := Option.map_eq_some_iff.mp h
      cases expired
  | task id help =>
      simp only [answer?, result?, Option.or_eq_some_iff] at h
      obtain answered | ⟨-, expired⟩ := h
      · simp only [Collaborators.result?] at answered
        split at answered
        · rename_i result evaluated
          rw [NodeResult.eq_elements_of_labelled (Option.some.inj answered)] at evaluated
          obtain ⟨o, model, source, provided, rfl⟩ | derived :=
            NodeOptions.elements_of_evaluate evaluated
          · exact .inl ⟨help, o, model, rfl, source, provided, rfl⟩
          · exact .inr derived
        · simp only [failureOf, Option.some.injEq] at answered
          split at answered <;> cases answered
        · cases answered
      · obtain ⟨seconds, -, expired⟩ := Option.map_eq_some_iff.mp expired
        cases expired

end Engine

section Justified

variable {engine : Engine} {p : Plan} {turns : List Turn} {store : Store} {id : String}
  {c : Collection} (named : ∀ id node, p.nodes.find? id = some node → node.id = id)

include named

/-- Elements are given to a source, or fed to another node. -/
theorem Earned.elements (earned : Earned p (engine.endedBy turns) store id (.elements c)) :
    ∃ node, p.nodes.find? id = some node ∧
      ((∃ help o model, node.options = .source o ∧ Turn.task id help ∈ turns ∧
        help.provider o.model = .value model ∧ c = ⟨model.elements, some model⟩) ∨
      node.kind ≠ .source ∧ ∃ inputs source, Fed p store id inputs ∧
        inputs.main = .ok source ∧ c.Within source) := by
  cases earned with
  | @evaluated node inputs _ known fed ended =>
      obtain ⟨turn, member, here, answer⟩ := ended
      have here : turn.id = id := here.trans (named id node known)
      refine ⟨node, known, ?_⟩
      obtain ⟨help, o, model, isTask, source, provided, rfl⟩ | ⟨other, source, main, within⟩ :=
        Engine.elements_of_answer? answer
      · rw [here] at isTask
        exact .inl ⟨help, o, model, source, isTask ▸ member, provided, rfl⟩
      · exact .inr ⟨other, inputs, source, fed, main, within⟩

theorem Justified.traced (o : p.Ordered) (justified : Justified p (engine.endedBy turns) store) :
    ∀ id c, store.find? id = some (.elements c) → Traced p turns store id c := by
  refine o.induction fun id ih c found => ?_
  obtain ⟨node, known, given | ⟨-, inputs, source, fed, main, within⟩⟩ :=
    (justified.earned id _ found).elements named
  · obtain ⟨help, o, model, source, member, provided, rfl⟩ := given
    have supplied : Supplied p turns store id model :=
      ⟨⟨node, o, help, known, source, member, provided⟩, found⟩
    refine ⟨fun e inside => ⟨id, model, .inl rfl, supplied, e, inside, rfl⟩, ?_⟩
    intro other same
    cases same
    exact ⟨id, .inl rfl, supplied⟩
  · obtain ⟨elements, models⟩ := mem_mergeCollections main
    -- A collection that is fed to the node was traced before.
    have before {c : Collection} (member : .elements c ∈ inputs.results mainInlet) :
        ∃ feeder, p.Feeds feeder id ∧ Traced p turns store feeder c := by
      obtain ⟨feeder, feeds, isResult⟩ := Plan.mem_results_inputsFor fed.gathered member
      exact ⟨feeder, feeds, ih feeder feeds c isResult⟩
    constructor
    · intro e member
      obtain ⟨e', member', same⟩ := within.exists_identity member
      obtain ⟨c', inside, member''⟩ := elements e' member'
      obtain ⟨feeder, feeds, traced⟩ := before inside
      obtain ⟨source, model, above, supplied, origin, isOrigin, same'⟩ :=
        traced.elements e' member''
      exact ⟨source, model, o.above_of_feeds above feeds, supplied, origin, isOrigin,
        same.trans same'⟩
    · intro model isModel
      obtain ⟨c', inside, isModel'⟩ := models model (within.model ▸ isModel)
      obtain ⟨feeder, feeds, traced⟩ := before inside
      obtain ⟨source, above, supplied⟩ := traced.model model isModel'
      exact ⟨source, o.above_of_feeds above feeds, supplied⟩

end Justified

/-- A model of one wall. -/
def Model.wall : Model where
  id := "house"
  name := "House"
  schema := .ifc4
  elements := [⟨"1-IFCWALL", 1, "IfcWall", .empty, .empty, .empty, [], none, none⟩]
  counts := .empty
  sourcePath := none
  project := none

/-- An engine that has this model only. -/
def Engine.housed : Engine where
  help := { provider := fun _ => .value Model.wall, writer := none }
  slots := 1
  timeout := none

namespace RunState

/-- Elements in a report of any run come from models that the provider returned to their node or to
sources upstream of it, and so does their model. Nodes other than sources report some of the
elements at their inlet, in the same order. -/
theorem elements_of_reported {draft : Draft} {w : Workflow} (valid : draft.validate = .ok w)
    {engine : Engine} {turns : List Turn} {s : RunState}
    (played : play engine w.plan .initial turns = some s) {report : Report}
    (reports : s.Reports w.plan report) :
    ∀ id c, report.results.find? id = some (.elements c) →
      Traced w.plan turns report.results id c ∧
      ∀ node, w.nodes.find? id = some node → node.kind ≠ .source →
        ∃ inputs input, w.plan.inputsFor id report.results = .ok inputs ∧
          inputs.main = .ok input ∧
          (c.elements.map Element.id).Sublist (input.elements.map Element.id) := by
  intro id c found
  have o := Draft.ordered_of_validate valid
  have named (id : String) (node : Node) : w.plan.nodes.find? id = some node → node.id = id :=
    Draft.id_of_validate valid
  have sound := sound_of_play played
  have sound' := (sound_initial w.plan _).play (engine.accounted_endedBy named) played
  have justified := sound'.justified
  have kept (id : String) (result : NodeResult) (found : s.store.find? id = some result) :
      report.results.find? id = some result :=
    ((unmarked_iff o sound reports id result).mpr found).1
  have found' := (unmarked_iff o sound reports id _).mp ⟨found, nofun⟩
  refine ⟨(justified.traced named o id c found').mono kept, fun node known other => ?_⟩
  obtain ⟨node', known', given | ⟨-, inputs, input, fed, main, within⟩⟩ :=
    (justified.earned id _ found').elements named
  · obtain ⟨help, o, model, isSource, -⟩ := given
    cases Option.some.inj (known.symm.trans known')
    exact absurd (by rw [Node.kind, isSource]; rfl) other
  · refine ⟨inputs, input, ?_, main, within.ids⟩
    rw [← fed.gathered]
    refine Plan.inputsFor_congr fun feeder feeds => ?_
    obtain ⟨result, isResult⟩ := OrderedMap.exists_find?
      (justified.closed id (OrderedMap.mem_keys_of_find? found') feeder feeds)
    rw [isResult, kept feeder result isResult]

/-- The elements that a store has of a node, by name. -/
def elementIds? (store : Store) (id : String) : Option (List String) :=
  (store.find? id).bind fun
    | .elements c => some (c.elements.map Element.id)
    | _ => none

theorem exists_of_elementIds? {store : Store} {id : String} {ids : List String}
    (h : elementIds? store id = some ids) :
    ∃ c, store.find? id = some (.elements c) ∧ c.elements.map Element.id = ids := by
  obtain ⟨result, found, same⟩ := Option.bind_eq_some_iff.mp h
  split at same
  · exact ⟨_, found, Option.some.inj same⟩
  · cases same

/-- The wall of the model is seen through the watch, which only passes it on. -/
theorem elements_of_reported_watched : ∃ s c, play .housed Workflow.watched.plan .initial
      (Engine.housed.turns ["model", "model", "model", "view", "view", "view"]) = some s ∧
    (s.finished Workflow.watched.plan).results.find? "view" = some (.elements c) ∧
    c.elements.map Element.id = ["1-IFCWALL"] ∧
    ∃ inputs input, Workflow.watched.plan.inputsFor "view" s.store = .ok inputs ∧
      inputs.main = .ok input ∧
      (c.elements.map Element.id).Sublist (input.elements.map Element.id) := by
  have seen : (play .housed Workflow.watched.plan .initial
      (Engine.housed.turns ["model", "model", "model", "view", "view", "view"])).map
        (fun s => (s.complete Workflow.watched.plan, elementIds? s.store "view")) =
      some (true, some ["1-IFCWALL"]) := by decide +kernel
  obtain ⟨s, played, ended⟩ := Option.map_eq_some_iff.mp seen
  obtain ⟨complete, ids⟩ := Prod.mk.inj ended
  obtain ⟨c, found, ids⟩ := exists_of_elementIds? ids
  obtain ⟨-, fed⟩ := elements_of_reported Draft.validate_watched played (.finished complete)
    "view" c found
  have view : Workflow.watched.nodes.find? "view" =
      some ⟨"view", .watch ⟨.table, false⟩, none⟩ := rfl
  exact ⟨s, c, played, found, ids, fed _ view (by decide)⟩

end RunState

end BuildingWorkflow
