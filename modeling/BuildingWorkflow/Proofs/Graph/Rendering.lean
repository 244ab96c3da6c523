import BuildingWorkflow.Proofs.Graph.Fields

/-!
Two shapes of one document.

A document in the flat shape can be written as a canvas editor writes it, each node and each edge on
its own. Either document is taken just when the other is, and both describe the same graph.
-/
namespace BuildingWorkflow

/-! ## Nodes -/

/-- A node in the flat shape: its fields go by one name each, and options are a mapping. -/
structure Bag.FlatNode (flat : Bag) : Prop where
  untyped : flat.lookup "type" = none
  unlisted : flat.lookup "properties" = none
  undrawn : flat.lookup dataField = none
  mapping : ∀ v, flat.lookup "config" = some v → ∃ options, v = .map options

/-- Where the options and the label of a flat node stand in a rendering of it. -/
inductive Bag.Held (flat rendered : Bag) : Prop
  | beside (undrawn : rendered.lookup dataField = none)
      (options : rendered.lookup "config" = flat.lookup "config")
      (label : rendered.lookup "label" = flat.lookup "label")
  | within {inner : Bag} (drawn : rendered.lookup dataField = some (.map inner))
      (unset : rendered.lookup "config" = none) (unlabelled : rendered.lookup "label" = none)
      (options : inner.lookup "properties" = flat.lookup "config")
      (label : inner.lookup "label" = flat.lookup "label")

/-- A rendering of a flat node. Fields of other names are of no account. -/
structure Bag.NodeRendered (flat rendered : Bag) : Prop where
  plain : Bag.FlatNode flat
  id : rendered.lookup "id" = flat.lookup "id"
  kind : rendered.lookup "kind" = flat.lookup "kind" ∧ rendered.lookup "type" = none ∨
    rendered.lookup "kind" = none ∧ rendered.lookup "type" = flat.lookup "kind"
  unlisted : rendered.lookup "properties" = none
  held : flat.Held rendered

theorem Bag.canvas?_eq_none {bag : Bag} (undrawn : bag.lookup dataField = none) :
    bag.canvas? = none := by
  rw [canvas?, undrawn]

theorem Bag.getD_shownLabel? (inner : Bag) :
    inner.shownLabel?.getD .null = (inner.lookup "label").getD .null := by
  rw [shownLabel?]
  cases inner.lookup "label" with
  | none => rfl
  | some label => cases label <;> rfl

section Nodes

variable {flat rendered : Bag}

theorem Bag.FlatNode.givenOptions (h : Bag.FlatNode flat) :
    flat.givenOptions = (flat.lookup "config").getD (.map []) := by
  rw [Bag.givenOptions, Bag.canvas?_eq_none h.undrawn, h.unlisted, Option.map_none, Option.or_none,
    Option.or_none]

theorem Bag.FlatNode.givenLabel (h : Bag.FlatNode flat) :
    flat.givenLabel = (flat.lookup "label").getD .null := by
  rw [Bag.givenLabel, Bag.canvas?_eq_none h.undrawn, Option.bind_none, Option.or_none]

namespace Bag.NodeRendered

variable (h : Bag.NodeRendered flat rendered)

include h

theorem value?_kind : rendered.value? ["kind", "type"] = flat.value? ["kind", "type"] := by
  simp only [value?_cons, h.plain.untyped]
  obtain ⟨kind, untyped⟩ | ⟨unkind, type⟩ := h.kind
  · rw [kind, untyped]
    rfl
  · rw [unkind, type, Option.none_or, Option.none_or]
    rfl

theorem givenOptions : rendered.givenOptions = flat.givenOptions := by
  rw [h.plain.givenOptions, Bag.givenOptions, h.unlisted, Option.or_none]
  cases h.held with
  | beside undrawn options _ =>
      rw [canvas?_eq_none undrawn, options, Option.map_none, Option.or_none]
  | within drawn unset _ options _ =>
      rw [canvas?_eq_some_iff.mpr drawn, unset, ← options]
      change canvasOptions _ = _
      rw [canvasOptions]
      cases given : flat.lookup "config" with
      | none => rw [options, given]; rfl
      | some v =>
          obtain ⟨bag, rfl⟩ := h.plain.mapping v given
          rw [options, given]
          cases bag <;> rfl

theorem givenLabel : rendered.givenLabel = flat.givenLabel := by
  rw [h.plain.givenLabel, Bag.givenLabel]
  cases h.held with
  | beside undrawn _ label =>
      rw [canvas?_eq_none undrawn, label, Option.bind_none, Option.or_none]
  | within drawn _ unlabelled _ label =>
      rw [canvas?_eq_some_iff.mpr drawn, unlabelled, ← label]
      exact getD_shownLabel? _

theorem readNode (node : DraftNode) :
    BuildingWorkflow.readNode (.map rendered) = .ok node ↔
      BuildingWorkflow.readNode (.map flat) = .ok node := by
  have names (id kind : String) (label : Option String) :
      Bag.Names rendered id kind label ↔ Bag.Names flat id kind label := by
    constructor
    · intro named
      exact ⟨h.id ▸ named.identified, h.value?_kind ▸ named.kind, h.givenLabel ▸ named.label⟩
    · intro named
      exact ⟨h.id.symm ▸ named.identified, h.value?_kind.symm ▸ named.kind,
        h.givenLabel.symm ▸ named.label⟩
  rw [readNode_eq_ok_iff, readNode_eq_ok_iff, names, h.givenOptions]

end Bag.NodeRendered

end Nodes

/-! ## Edges -/

/-- The value under the first of some spellings that a bag has a value for; null is none. -/
def Bag.set? (bag : Bag) (keys : List String) : Option Value :=
  keys.findSome? fun key => (bag.lookup key).filter fun v => !v.isNull

theorem value?_filter {bag : Bag} (distinct : (bag.map Prod.fst).Nodup) (keys : List String) :
    Bag.value? (bag.filter fun entry => !entry.2.isNull) keys = bag.set? keys := by
  have each (key : String) : (bag.filter fun entry => !entry.2.isNull).lookup key =
      (bag.lookup key).filter fun v => !v.isNull :=
    OrderedMap.find?_filter (fun _ (v : Value) => !v.isNull) ⟨bag, distinct⟩ key
  simp only [Bag.value?, Bag.set?, each]

theorem Bag.set?_of_only {bag : Bag} {keys : List String} {key : String} (among : key ∈ keys)
    (only : ∀ other ∈ keys, other ≠ key → bag.lookup other = none) :
    bag.set? keys = (bag.lookup key).filter fun v => !v.isNull := by
  induction keys with
  | nil => cases among
  | cons first rest ih =>
      rw [set?, List.findSome?_cons, ← set?]
      by_cases here : first = key
      · subst here
        cases found : (bag.lookup first).filter fun v => !v.isNull with
        | some v => rfl
        | none =>
            by_cases again : first ∈ rest
            · have later := ih again fun other listed => only other (List.mem_cons_of_mem _ listed)
              exact later.trans found
            · refine List.findSome?_eq_none_iff.mpr fun other listed => ?_
              have apart : other ≠ first := fun same => again (same ▸ listed)
              rw [only other (List.mem_cons_of_mem _ listed) apart, Option.filter_none]
      · rw [only first List.mem_cons_self here, Option.filter_none]
        have later : key ∈ rest := (List.mem_cons.mp among).resolve_left (Ne.symm here)
        exact ih later fun other listed => only other (List.mem_cons_of_mem _ listed)

/-- What is read of the record of an edge. -/
theorem readEdge_eq_ok_iff {bag : Bag} (distinct : (bag.map Prod.fst).Nodup) {e : Edge} :
    readEdge (.map bag) = .ok e ↔
      Bag.set? bag ["source"] = some (.text e.source) ∧
      Bag.set? bag ["target"] = some (.text e.target) ∧
      (Bag.set? bag ["source_port", "sourcePort", "sourceHandle"]).getD (.text mainOutlet) =
        .text e.outlet ∧
      ∃ name, (Bag.set? bag ["target_port", "targetPort", "targetHandle"]).getD
          (.text mainInlet) = .text name ∧
        e.inlet = if name = "valueInput" then valueInlet else name := by
  have outlet (given : Option Value) (taken : String) :
      (given.elim (taken = mainOutlet) fun v => v = .text taken) ↔
        given.getD (.text mainOutlet) = .text taken := by
    cases given <;> simp [eq_comm]
  have inlet (given : Option Value) (taken : String) :
      (given.elim (taken = mainInlet) fun v => readInlet v = .ok taken) ↔
        ∃ name, given.getD (.text mainInlet) = .text name ∧
          taken = if name = "valueInput" then valueInlet else name := by
    cases given with
    | none => simp [mainInlet]
    | some v =>
        rw [Option.elim_some, Option.getD_some]
        cases v <;> simp [readInlet, Reading.ofScalar, Scalar.text, Reading.map, eq_comm]
  simp only [readEdge, readRecord, Reading.seq_eq_ok_iff, Reading.fmap_eq_ok_iff,
    requiredAt_eq_ok_iff, optionAt_eq_ok_iff, value?_filter distinct, outlet, inlet,
    ofScalar_text_eq_ok_iff]
  constructor
  · rintro ⟨_, inlet, ⟨_, outlet, ⟨_, target, ⟨source, ⟨_, leaves, rfl⟩, rfl⟩,
      ⟨_, reaches, rfl⟩, rfl⟩, out, rfl⟩, into, rfl⟩
    exact ⟨leaves, reaches, out, into⟩
  · rintro ⟨leaves, reaches, out, into⟩
    exact ⟨_, _, ⟨_, _, ⟨_, _, ⟨_, ⟨_, leaves, rfl⟩, rfl⟩, ⟨_, reaches, rfl⟩, rfl⟩, out, rfl⟩,
      into, rfl⟩

/-- How the name of a port may be rendered: as it is, or as nothing if it is the main one. -/
inductive PortAlike (main : String) : Option Value → Option Value → Prop
  | same (v : Option Value) : PortAlike main v v
  | main {v v' : Option Value} (meant : v ∈ [none, some .null, some (.text main)])
      (unset : v' ∈ [none, some .null]) : PortAlike main v v'

/-- How the name of an inlet may be rendered: as that of any port, or by the name that canvas
editors have for it. -/
inductive InletAlike : Option Value → Option Value → Prop
  | port {v v' : Option Value} (alike : PortAlike mainInlet v v') : InletAlike v v'
  | value : InletAlike (some (.text valueInlet)) (some (.text "valueInput"))

/-- A field of a flat edge that is rendered under one of its names. -/
structure Bag.FieldRendered (alike : Option Value → Option Value → Prop) (name : String)
    (others : List String) (flat rendered : Bag) : Prop where
  plain : ∀ other ∈ others, flat.lookup other = none
  moved : ∃ key ∈ name :: others,
    (∀ other ∈ name :: others, other ≠ key → rendered.lookup other = none) ∧
      alike (flat.lookup name) (rendered.lookup key)

/-- A rendering of a flat edge. Fields of other names are of no account. -/
structure Bag.EdgeRendered (flat rendered : Bag) : Prop where
  distinct : (flat.map Prod.fst).Nodup ∧ (rendered.map Prod.fst).Nodup
  source : rendered.lookup "source" = flat.lookup "source"
  target : rendered.lookup "target" = flat.lookup "target"
  outlet : Bag.FieldRendered (PortAlike mainOutlet) "source_port" ["sourcePort", "sourceHandle"]
    flat rendered
  inlet : Bag.FieldRendered InletAlike "target_port" ["targetPort", "targetHandle"] flat rendered

section Edges

variable {flat rendered : Bag}

theorem PortAlike.getD {main : String} {v v' : Option Value} (h : PortAlike main v v') :
    (v'.filter fun v => !v.isNull).getD (.text main) =
      (v.filter fun v => !v.isNull).getD (.text main) := by
  cases h with
  | same => rfl
  | main meant unset =>
      simp only [List.mem_cons, List.not_mem_nil, or_false] at meant unset
      obtain rfl | rfl | rfl := meant <;> obtain rfl | rfl := unset <;> rfl

theorem InletAlike.named {v v' : Option Value} (h : InletAlike v v') (inlet : String) :
    (∃ name, (v'.filter fun v => !v.isNull).getD (.text mainInlet) = .text name ∧
      inlet = if name = "valueInput" then valueInlet else name) ↔
    ∃ name, (v.filter fun v => !v.isNull).getD (.text mainInlet) = .text name ∧
      inlet = if name = "valueInput" then valueInlet else name := by
  cases h with
  | port alike => rw [alike.getD]
  | value => simp [Option.filter, Value.isNull, valueInlet]

theorem Bag.FieldRendered.set? {alike : Option Value → Option Value → Prop} {name : String}
    {others : List String} (h : Bag.FieldRendered alike name others flat rendered) :
    ∃ v v', alike v v' ∧ Bag.set? flat (name :: others) = (v.filter fun v => !v.isNull) ∧
      Bag.set? rendered (name :: others) = (v'.filter fun v => !v.isNull) := by
  obtain ⟨key, among, only, alike⟩ := h.moved
  refine ⟨_, _, alike, Bag.set?_of_only List.mem_cons_self ?_, Bag.set?_of_only among only⟩
  intro other listed apart
  exact h.plain other ((List.mem_cons.mp listed).resolve_left apart)

theorem Bag.EdgeRendered.readEdge (h : Bag.EdgeRendered flat rendered) (e : Edge) :
    BuildingWorkflow.readEdge (.map rendered) = .ok e ↔
      BuildingWorkflow.readEdge (.map flat) = .ok e := by
  have single (name : String) (same : rendered.lookup name = flat.lookup name) :
      Bag.set? rendered [name] = Bag.set? flat [name] := by
    simp only [Bag.set?, List.findSome?_cons, same]
    rfl
  obtain ⟨v, v', outlets, out, out'⟩ := h.outlet.set?
  obtain ⟨w, w', inlets, into, into'⟩ := h.inlet.set?
  rw [readEdge_eq_ok_iff h.distinct.1, readEdge_eq_ok_iff h.distinct.2, single _ h.source,
    single _ h.target, out, out', into, into', outlets.getD, inlets.named]

end Edges

/-! ## Documents -/

/-- Lists of records of which one renders the other, item by item. -/
inductive Value.ListRendered (each : Bag → Bag → Prop) : Value → Value → Prop
  | list {items items' : List Value}
      (rendered : List.Forall₂ (fun item item' =>
        ∃ flat rendered, item = .map flat ∧ item' = .map rendered ∧ each flat rendered)
        items items') : ListRendered each (.list items) (.list items')

/-- A rendering of a flat document. Other fields are of no account. -/
structure Bag.Rendered (flat rendered : Bag) : Prop where
  nodes : Option.Rel (Value.ListRendered Bag.NodeRendered) (flat.lookup "nodes")
    (rendered.lookup "nodes")
  edges : Option.Rel (Value.ListRendered Bag.EdgeRendered) (flat.lookup "edges")
    (rendered.lookup "edges")

section Documents

variable {α : Type} {read : Value → Reading α} {each : Bag → Bag → Prop}

theorem Value.ListRendered.readList
    (alike : ∀ flat rendered, each flat rendered → ∀ a,
      read (.map rendered) = .ok a ↔ read (.map flat) = .ok a)
    {v v' : Value} (h : Value.ListRendered each v v') (values : List α) :
    BuildingWorkflow.readList read v' = .ok values ↔
      BuildingWorkflow.readList read v = .ok values := by
  obtain ⟨pairs⟩ := h
  simp only [BuildingWorkflow.readList, Reading.items_eq_ok_iff]
  induction pairs generalizing values with
  | nil => rfl
  | cons first rest ih =>
      obtain ⟨flat, rendered, rfl, rfl, same⟩ := first
      simp only [List.forall₂_cons_left_iff, alike flat rendered same, ih]

theorem optionAt_rendered
    (alike : ∀ flat rendered, each flat rendered → ∀ a,
      read (.map rendered) = .ok a ↔ read (.map flat) = .ok a)
    {flat rendered : Bag} {name : String}
    (h : Option.Rel (Value.ListRendered each) (flat.lookup name) (rendered.lookup name))
    (values : List α) :
    optionAt rendered [name] [] (readList read) = .ok values ↔
      optionAt flat [name] [] (readList read) = .ok values := by
  rw [optionAt_singleton, optionAt_singleton]
  generalize flat.lookup name = v at h
  generalize rendered.lookup name = v' at h
  cases h with
  | none => rfl
  | some same =>
      rw [Option.elim_some, Option.elim_some, Reading.under_eq_ok_iff, Reading.under_eq_ok_iff]
      exact same.readList alike values

/-- A rendering of a document is taken when the document is, and describes the same graph. -/
theorem ofDocument_rendered {flat rendered : Bag} (h : Bag.Rendered flat rendered)
    (draft : Draft) :
    Draft.ofDocument (.map rendered) = .ok draft ↔ Draft.ofDocument (.map flat) = .ok draft := by
  rw [Draft.ofDocument_eq_ok_iff, Draft.ofDocument_eq_ok_iff,
    optionAt_rendered (fun _ _ same => same.readNode) h.nodes,
    optionAt_rendered (fun _ _ same => same.readEdge) h.edges]

end Documents

/-- A model and a filter of it, in the flat shape. -/
def Bag.plainGraph : Bag :=
  [("nodes", .list [.map [("id", .text "model"), ("kind", .text "source")],
      .map [("id", .text "heavy"), ("kind", .text "filter"),
        ("config", .map [("property", .text "Load")]), ("label", .text "Heavy")]]),
    ("edges", .list [.map [("source", .text "model"), ("target", .text "heavy"),
      ("target_port", .text "value")]])]

/-- The same graph with the filter and the edge as a canvas draws them. -/
def Bag.drawnGraph : Bag :=
  [("nodes", .list [.map [("id", .text "model"), ("kind", .text "source"), ("x", .int 4)],
      .map Bag.drawn]),
    ("edges", .list [.map [("source", .text "model"), ("target", .text "heavy"),
      ("sourceHandle", .null), ("targetHandle", .text "valueInput")]])]

theorem ofDocument_rendered_drawn : Bag.Rendered .plainGraph .drawnGraph ∧
    Draft.ofDocument (.map Bag.drawnGraph) =
      .ok ⟨[⟨"model", "source", [], none⟩,
        ⟨"heavy", "filter", [("property", .text "Load")], some "Heavy"⟩],
        [⟨"model", "heavy", mainOutlet, valueInlet⟩]⟩ := by
  have model : Bag.NodeRendered [("id", .text "model"), ("kind", .text "source")]
      [("id", .text "model"), ("kind", .text "source"), ("x", .int 4)] :=
    ⟨⟨rfl, rfl, rfl, nofun⟩, rfl, .inl ⟨rfl, rfl⟩, rfl, .beside rfl rfl rfl⟩
  have filter : Bag.NodeRendered [("id", .text "heavy"), ("kind", .text "filter"),
      ("config", .map [("property", .text "Load")]), ("label", .text "Heavy")] Bag.drawn :=
    ⟨⟨rfl, rfl, rfl, fun _ own => ⟨_, (Option.some.inj own).symm⟩⟩, rfl, .inr ⟨rfl, rfl⟩, rfl,
      .within rfl rfl rfl rfl rfl⟩
  have edge : Bag.EdgeRendered [("source", .text "model"), ("target", .text "heavy"),
      ("target_port", .text "value")] [("source", .text "model"), ("target", .text "heavy"),
      ("sourceHandle", .null), ("targetHandle", .text "valueInput")] := by
    refine ⟨by decide, rfl, rfl, ⟨by decide, "sourceHandle", by decide, by decide, ?_⟩,
      ⟨by decide, "targetHandle", by decide, by decide, .value⟩⟩
    exact .main List.mem_cons_self (List.mem_cons_of_mem _ List.mem_cons_self)
  have rendered : Bag.Rendered .plainGraph .drawnGraph :=
    ⟨.some ⟨.cons ⟨_, _, rfl, rfl, model⟩ (.cons ⟨_, _, rfl, rfl, filter⟩ .nil)⟩,
      .some ⟨.cons ⟨_, _, rfl, rfl, edge⟩ .nil⟩⟩
  exact ⟨rendered, (ofDocument_rendered rendered _).mpr rfl⟩

end BuildingWorkflow
