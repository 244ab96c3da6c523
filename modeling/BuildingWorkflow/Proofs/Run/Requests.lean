import BuildingWorkflow.Proofs.Graph.Gathering
import BuildingWorkflow.Proofs.Run.Provenance
import Mathlib.Computability.Primrec.List

/-!
What is handed to the writer.

A request has the elements at the inlet of an export node and one model. As long as collections of
one model meet, the elements are those of that model. Where a node that observes brings together
collections of different models, it keeps the first model and all the elements, and a request
downstream can have elements of a model that it does not name.
-/
namespace BuildingWorkflow

/-- Every element is one of the model. -/
def OwnedBy (model : Option Model) (elements : List Element) : Prop :=
  ∀ e ∈ elements, ∃ m, model = some m ∧ ∃ origin ∈ m.elements, e.identity = origin.identity

/-- No two collections among some results have different models. -/
def Uniform (results : List NodeResult) : Prop :=
  ∀ c c' m m', .elements c ∈ results → .elements c' ∈ results →
    c.model = some m → c'.model = some m' → m = m'

theorem uniform_of_length_le_one {results : List NodeResult} (few : results.length ≤ 1) :
    Uniform results := by
  intro c c' m m' member member' known known'
  match results with
  | [] => cases member
  | [result] =>
      obtain rfl := List.mem_singleton.mp member
      cases List.mem_singleton.mp member'
      exact Option.some.inj (known.symm.trans known')

theorem OwnedBy.of_within {c source : Collection} (within : c.Within source)
    (owned : OwnedBy source.model source.elements) : OwnedBy c.model c.elements := by
  intro e member
  obtain ⟨e', member', same⟩ := within.exists_identity member
  obtain ⟨m, known, origin, isOrigin, same'⟩ := owned e' member'
  exact ⟨m, within.model.trans known, origin, isOrigin, same.trans same'⟩

/-- A collection that brings others together has a model if one of them has. -/
theorem exists_model_of_merge {inlet : String} {results : List NodeResult} {c fed : Collection}
    (h : mergeCollections inlet results = .ok c) (member : .elements fed ∈ results) {m : Model}
    (known : fed.model = some m) : ∃ m', c.model = some m' := by
  induction results generalizing c with
  | nil => cases member
  | cons result rest ih =>
      rw [mergeCollections] at h
      obtain ⟨first, isFirst, h⟩ := bind_eq_ok h
      obtain ⟨others, merged, h⟩ := bind_eq_ok h
      cases h
      cases List.mem_cons.mp member with
      | inl here =>
          rw [← here] at isFirst
          cases isFirst
          exact ⟨m, by simp [Collection.append, known]⟩
      | inr further =>
          obtain ⟨m', known'⟩ := ih merged further
          cases hm : first.model with
          | some m => exact ⟨m, by simp [Collection.append, hm]⟩
          | none => exact ⟨m', by simp [Collection.append, hm, known']⟩

/-- Collections of one model are brought together into one of that model. -/
theorem OwnedBy.of_merge {inlet : String} {results : List NodeResult} {c : Collection}
    (h : mergeCollections inlet results = .ok c) (uniform : Uniform results)
    (owned : ∀ fed, .elements fed ∈ results → OwnedBy fed.model fed.elements) :
    OwnedBy c.model c.elements := by
  intro e member
  obtain ⟨elements, models⟩ := mem_mergeCollections h
  obtain ⟨fed, inside, member'⟩ := elements e member
  obtain ⟨m, known, origin⟩ := owned fed inside e member'
  obtain ⟨m', known'⟩ := exists_model_of_merge h inside known
  obtain ⟨fed', inside', known''⟩ := models m' known'
  obtain rfl := uniform _ _ _ _ inside inside' known known''
  exact ⟨m, known', origin⟩

/-! ## Inlets -/

/-- The kinds of nodes that take any number of edges and pass on what they are fed. -/
def NodeKind.Observes (kind : NodeKind) : Prop := kind = .watch ∨ kind = .viewer

theorem NodeKind.single_of_inlet? {kind : NodeKind} (other : ¬ kind.Observes) {name : String}
    {inlet : Inlet} (has : kind.inlet? name = some inlet) : inlet.multiple = false := by
  have narrow : kind = .watch ∨ kind = .viewer ∨ ∀ inlet ∈ kind.inlets, inlet.multiple = false := by
    cases kind <;> decide
  obtain watch | viewer | narrow := narrow
  · exact absurd (.inl watch) other
  · exact absurd (.inr viewer) other
  · exact narrow inlet (List.mem_of_find?_eq_some has)

/-- An inlet of a node of another kind has at most one edge. -/
theorem Draft.length_sourcesAt_le {draft : Draft} {w : Workflow} (valid : draft.validate = .ok w)
    {id : String} {node : Node} (known : w.nodes.find? id = some node)
    (other : ¬ node.kind.Observes) (inlet : String) : (w.plan.sourcesAt id inlet).length ≤ 1 := by
  cases sources : w.plan.sourcesAt id inlet with
  | nil => exact Nat.zero_le 1
  | cons feeder rest =>
      have member : feeder ∈ w.plan.sourcesAt id inlet := sources ▸ List.mem_cons_self
      obtain ⟨e, listed, -, target, rfl⟩ := Plan.mem_sourcesAt.mp member
      obtain ⟨port, offered⟩ := exists_inlet_of_edge valid known listed target
      rw [← sources]
      exact length_sourcesAt_le_one valid known offered (NodeKind.single_of_inlet? other offered)

/-! ## Runs -/

section Justified

variable {engine : Engine} {p : Plan} {turns : List Turn} {store : Store} {id : String}

/-- At no node that observes, among a node and those upstream of it, do collections of different
models meet. -/
def UniformAbove (p : Plan) (store : Store) (id : String) : Prop :=
  ∀ view viewer, p.Above view id → p.nodes.find? view = some viewer → viewer.kind.Observes →
    Uniform ((p.sourcesAt view mainInlet).filterMap store.find?)

theorem UniformAbove.of_feeds (o : p.Ordered) {feeder : String} (uniform : UniformAbove p store id)
    (feeds : p.Feeds feeder id) : UniformAbove p store feeder :=
  fun view viewer above known observes =>
    uniform view viewer (o.above_of_feeds above feeds) known observes

variable (named : ∀ id node, p.nodes.find? id = some node → node.id = id)
  (single : ∀ id node, p.nodes.find? id = some node → ¬ node.kind.Observes →
    (p.sourcesAt id mainInlet).length ≤ 1)

include single in
/-- What is brought together at a node is of one model when what feeds the node is. -/
theorem Fed.ownedBy {node : Node} {inputs : Inputs} {c : Collection} (fed : Fed p store id inputs)
    (known : p.nodes.find? id = some node) (main : inputs.main = .ok c)
    (uniform : UniformAbove p store id)
    (owned : ∀ feeder, p.Feeds feeder id → ∀ c, store.find? feeder = some (.elements c) →
      OwnedBy c.model c.elements) : OwnedBy c.model c.elements := by
  refine OwnedBy.of_merge main ?_ ?_
  · rw [Plan.results_inputsFor fed.gathered]
    by_cases observes : node.kind.Observes
    · exact uniform id node (.inl rfl) known observes
    · apply uniform_of_length_le_one
      exact (List.length_filterMap_le _ _).trans (single id node known observes)
  · intro fed' member
    obtain ⟨feeder, feeds, found⟩ := Plan.mem_results_inputsFor fed.gathered member
    exact owned feeder feeds fed' found

include named single in
theorem Justified.ownedBy (o : p.Ordered) (justified : Justified p (engine.endedBy turns) store) :
    ∀ id c, store.find? id = some (.elements c) → UniformAbove p store id →
      OwnedBy c.model c.elements := by
  refine o.induction fun id ih c found uniform => ?_
  obtain ⟨node, known, given | ⟨-, inputs, source, fed, main, within⟩⟩ :=
    (justified.earned id _ found).elements named
  · obtain ⟨help, o, model, -, -, -, rfl⟩ := given
    exact fun e member => ⟨model, rfl, e, member, rfl⟩
  · refine OwnedBy.of_within within (fed.ownedBy single known main uniform ?_)
    intro feeder feeds c found
    exact ih feeder feeds c found (uniform.of_feeds o feeds)

end Justified

/-- Where all sources were given one model, no different models meet. -/
theorem uniformAbove_of_one_model {p : Plan} {turns : List Turn} {store : Store} {model : Model}
    (traced : ∀ id c, store.find? id = some (.elements c) → Traced p turns store id c)
    (one : ∀ source m, Supplied p turns store source m → m = model) (id : String) :
    UniformAbove p store id := by
  intro view viewer _ _ _ c c' m m' member member' known known'
  have same {c : Collection} {m : Model} (known : c.model = some m)
      (member : .elements c ∈ (p.sourcesAt view mainInlet).filterMap store.find?) : m = model := by
    obtain ⟨feeder, -, found⟩ := List.mem_filterMap.mp member
    obtain ⟨source, -, supplied⟩ := (traced feeder c found).model m known
    exact one source m supplied
  exact (same known member).trans (same known' member').symm

namespace RunState

/-- A request is made by an export node that was begun, and has what the node is fed. -/
theorem exists_of_mem_requests {p : Plan} {s : RunState} {request : ExportRequest}
    (member : request ∈ s.requests p) : ∃ id inputs node c, (id, inputs) ∈ s.begun ∧
      p.nodes.find? id = some node ∧ node.kind = .exporter ∧
      node.options.request? inputs = some request ∧ inputs.main = .ok c ∧
      request.elements = c.elements ∧ request.model = c.model := by
  obtain ⟨⟨id, inputs⟩, begun, made⟩ := List.mem_filterMap.mp member
  obtain ⟨node, known, made⟩ := Option.bind_eq_some_iff.mp made
  refine ⟨id, inputs, node, ?_⟩
  have given := made
  cases options : node.options with
  | exporter o =>
      have kind : node.kind = .exporter := by rw [Node.kind, options, NodeOptions.kind]
      simp only [options, NodeOptions.request?, Option.ite_none_left_eq_some] at made
      cases asked : o.request inputs with
      | error fault => simp [asked, Except.toOption] at made
      | ok request' =>
          simp only [asked, Except.toOption, Option.some.injEq] at made
          obtain ⟨-, rfl⟩ := made
          obtain ⟨c, main, done⟩ := bind_eq_ok asked
          cases done
          exact ⟨c, begun, known, kind, options ▸ given, main, rfl, rfl⟩
  | _ => simp [options, NodeOptions.request?] at made

/-- A request is made by an export node whose evaluation was begun. Its elements are those of the
model that it names when no watch or viewer upstream of the node brings together collections of
different models. -/
theorem ownedBy_of_mem_requests {draft : Draft} {w : Workflow} (valid : draft.validate = .ok w)
    {engine : Engine} {turns : List Turn} {s : RunState}
    (played : play engine w.plan .initial turns = some s) {request : ExportRequest}
    (member : request ∈ s.requests w.plan) :
    ∃ id inputs node, (id, inputs) ∈ s.begun ∧ w.nodes.find? id = some node ∧
      node.kind = .exporter ∧ node.options.request? inputs = some request ∧
      (UniformAbove w.plan s.store id → OwnedBy request.model request.elements) := by
  have o := Draft.ordered_of_validate valid
  have named (id : String) (node : Node) : w.plan.nodes.find? id = some node → node.id = id :=
    Draft.id_of_validate valid
  have single (id : String) (node : Node) (known : w.plan.nodes.find? id = some node)
      (other : ¬ node.kind.Observes) : (w.plan.sourcesAt id mainInlet).length ≤ 1 :=
    Draft.length_sourcesAt_le valid known other mainInlet
  have sound := (sound_initial w.plan _).play (engine.accounted_endedBy named) played
  obtain ⟨id, inputs, node, c, begun, known, kind, made, main, elements, model⟩ :=
    exists_of_mem_requests member
  refine ⟨id, inputs, node, begun, known, kind, made, fun uniform => ?_⟩
  rw [elements, model]
  obtain ⟨-, fed⟩ := sound.begunFed id inputs begun
  refine fed.ownedBy single known main uniform ?_
  intro feeder feeds c found
  exact sound.justified.ownedBy named single o feeder c found (uniform.of_feeds o feeds)

end RunState

/-- A model of one slab. -/
def Model.slab : Model :=
  { Model.wall with
    id := "shed"
    elements := [⟨"2-IFCSLAB", 2, "IfcSlab", .empty, .empty, .empty, [], none, none⟩] }

/-- Two models that are watched together and exported. -/
def Draft.merged : Draft where
  nodes := [⟨"house", "source", [("modelId", .text "house")], none⟩,
    ⟨"shed", "source", [("modelId", .text "shed")], none⟩, ⟨"view", "watch", [], none⟩,
    ⟨"out", "export", [("format", .text "ifc")], none⟩]
  edges := [⟨"house", "view", mainOutlet, mainInlet⟩, ⟨"shed", "view", mainOutlet, mainInlet⟩,
    ⟨"view", "out", mainOutlet, mainInlet⟩]

def Workflow.merged : Workflow where
  nodes := .ofList [("house", ⟨"house", .source ⟨some "house"⟩, none⟩),
    ("shed", ⟨"shed", .source ⟨some "shed"⟩, none⟩),
    ("view", ⟨"view", .watch ⟨.table, false⟩, none⟩),
    ("out", ⟨"out", .exporter ⟨.ifc, "export", "Name,Type,Material"⟩, none⟩)]
  edges := Draft.merged.edges

theorem check_merged : Draft.merged.nodes.map DraftNode.check =
    Workflow.merged.nodes.values.map .ok := by
  have source : NodeKind.ofText "source" = .ok .source :=
    NodeKind.ofText_of_name (by decide +kernel) (by decide)
  have watch : NodeKind.ofText "watch" = .ok .watch :=
    NodeKind.ofText_of_name (by decide +kernel) (by decide)
  have exporter : NodeKind.ofText "export" = .ok .exporter :=
    NodeKind.ofText_of_name (by decide +kernel) (by decide)
  have model (id name : String) : DraftNode.check ⟨id, "source", [("modelId", .text name)], none⟩ =
      .ok ⟨id, .source ⟨some name⟩, none⟩ := DraftNode.check_of_read source rfl
  have view : DraftNode.check ⟨"view", "watch", [], none⟩ =
      .ok ⟨"view", .watch ⟨.table, false⟩, none⟩ := DraftNode.check_of_read watch rfl
  have out : DraftNode.check ⟨"out", "export", [("format", .text "ifc")], none⟩ =
      .ok ⟨"out", .exporter ⟨.ifc, "export", "Name,Type,Material"⟩, none⟩ :=
    DraftNode.check_of_read exporter rfl
  simp only [Draft.merged, List.map_cons, List.map_nil, model, view, out]
  rfl

theorem Draft.validate_merged : Draft.merged.validate = .ok Workflow.merged := by
  have accepted : Draft.merged.accepted = Workflow.merged.nodes :=
    accepted_of_checks (by decide) check_merged
  have clean : Draft.merged.issues = [] := by
    rw [issues, List.append_eq_nil_iff, nodeIssues_eq_nil_iff]
    exact ⟨⟨by decide, List.flatMap_eq_nil_iff.mp (by decide +kernel)⟩, by decide +kernel⟩
  refine validate_eq_ok_iff.mpr ⟨clean, ?_, by rw [accepted]; rfl⟩
  rw [digraph, accepted]
  cbv

/-- An engine with a writer and a provider that has these models by name. -/
def Engine.providing (models : Option String → Model) : Engine where
  help := { provider := fun name => .value (models name), writer := some fun _ => .value .empty }
  slots := 1
  timeout := none

/-- An engine that has the house under any name, and one that has the shed too. -/
def Engine.oneModel : Engine := .providing fun _ => Model.wall
def Engine.twoModels : Engine :=
  .providing fun name => if name = some "shed" then Model.slab else Model.wall

/-- Turns that bring the graph to its export. -/
def Draft.mergedOrder : List String :=
  ["house", "house", "house", "shed", "shed", "shed", "view", "view", "view", "out", "out"]

/-- The elements of a request and those of the model that it names. -/
def ExportRequest.ids (request : ExportRequest) : List String × Option (List String) :=
  (request.elements.map Element.id, request.model.map fun m => m.elements.map Element.id)

namespace RunState

theorem ownedBy_of_mem_requests_merged : ∃ s request,
    play .oneModel Workflow.merged.plan .initial (Engine.oneModel.turns Draft.mergedOrder) =
      some s ∧ request ∈ s.requests Workflow.merged.plan ∧
    request.ids = (["1-IFCWALL", "1-IFCWALL"], some ["1-IFCWALL"]) ∧
    OwnedBy request.model request.elements := by
  have handed : (play .oneModel Workflow.merged.plan .initial
      (Engine.oneModel.turns Draft.mergedOrder)).map
        (fun s => (s.requests Workflow.merged.plan).map ExportRequest.ids) =
      some [(["1-IFCWALL", "1-IFCWALL"], some ["1-IFCWALL"])] := by cbv
  obtain ⟨s, played, ids⟩ := Option.map_eq_some_iff.mp handed
  obtain ⟨request, only, ids⟩ := List.map_eq_singleton_iff.mp ids
  have member : request ∈ s.requests Workflow.merged.plan := only ▸ List.mem_singleton_self _
  obtain ⟨id, -, -, -, -, -, -, owned⟩ :=
    ownedBy_of_mem_requests Draft.validate_merged played member
  refine ⟨s, request, played, member, ids, owned ?_⟩
  have named (id : String) (node : Node) : Workflow.merged.plan.nodes.find? id = some node →
      node.id = id := Draft.id_of_validate Draft.validate_merged
  have o := Draft.ordered_of_validate Draft.validate_merged
  have sound := (sound_initial Workflow.merged.plan _).play (Engine.accounted_endedBy named) played
  have one (source : String) (m : Model) (supplied : Supplied Workflow.merged.plan
      (Engine.oneModel.turns Draft.mergedOrder) s.store source m) : m = Model.wall := by
    obtain ⟨_, _, help, -, -, turn, given⟩ := supplied.asked
    obtain ⟨_, -, same⟩ := List.mem_map.mp turn
    cases same
    exact (Answer.value.inj given).symm
  exact uniformAbove_of_one_model (sound.justified.traced named o) one id

/-- The house and the shed meet at the watch: the request names the house and has the slab of the
shed among its elements. -/
theorem ownedBy_of_mem_requests_mixed : ∃ s request,
    play .twoModels Workflow.merged.plan .initial (Engine.twoModels.turns Draft.mergedOrder) =
      some s ∧ request ∈ s.requests Workflow.merged.plan ∧
    request.ids = (["1-IFCWALL", "2-IFCSLAB"], some ["1-IFCWALL"]) ∧
    ¬ OwnedBy request.model request.elements := by
  have handed : (play .twoModels Workflow.merged.plan .initial
      (Engine.twoModels.turns Draft.mergedOrder)).map
        (fun s => (s.requests Workflow.merged.plan).map ExportRequest.ids) =
      some [(["1-IFCWALL", "2-IFCSLAB"], some ["1-IFCWALL"])] := by cbv
  obtain ⟨s, played, ids⟩ := Option.map_eq_some_iff.mp handed
  obtain ⟨request, only, ids⟩ := List.map_eq_singleton_iff.mp ids
  have member : request ∈ s.requests Workflow.merged.plan := only ▸ List.mem_singleton_self _
  refine ⟨s, request, played, member, ids, fun owned => ?_⟩
  obtain ⟨elements, model⟩ := Prod.mk.inj ids
  have slab : "2-IFCSLAB" ∈ request.elements.map Element.id := by simp [elements]
  obtain ⟨e, inside, id⟩ := List.mem_map.mp slab
  obtain ⟨m, known, origin, isOrigin, same⟩ := owned e inside
  rw [known] at model
  have walls : m.elements.map Element.id = ["1-IFCWALL"] := Option.some.inj model
  have foreign : origin.id ∈ m.elements.map Element.id := List.mem_map_of_mem isOrigin
  have sameId : e.id = origin.id := congrArg Prod.fst same
  rw [walls, ← sameId, id] at foreign
  simp at foreign

end RunState

end BuildingWorkflow
