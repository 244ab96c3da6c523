import BuildingWorkflow.Proofs.Graph.Acceptance
import BuildingWorkflow.Proofs.Graph.Inlets

/-!
Edges through a watch.

An edge into an inlet that takes no other is replaced by two that lead through a new watch. The
graph is taken as before. Only its target and the watch are fed otherwise, the target by the watch
where the source fed it.
-/
namespace BuildingWorkflow

/-- The edge from the source into the watch. -/
def Edge.before (e : Edge) (watch : String) : Edge := ⟨e.source, watch, mainOutlet, mainInlet⟩

/-- The edge from the watch to where the edge led. -/
def Edge.after (e : Edge) (watch : String) : Edge := ⟨watch, e.target, mainOutlet, e.inlet⟩

/-- The node that a node is taken for when the watch is taken for the source. -/
def Edge.seen (e : Edge) (watch id : String) : String := if id = watch then e.source else id

theorem Edge.seen_watch (e : Edge) (watch : String) : e.seen watch watch = e.source := if_pos rfl

theorem Edge.seen_of_ne (e : Edge) {watch id : String} (apart : id ≠ watch) :
    e.seen watch id = id := if_neg apart

/-- An edge into an inlet that takes no other leads through a new watch instead. -/
structure Draft.Rerouted (draft : Draft) (e : Edge) (watch : DraftNode) (draft' : Draft) :
    Prop where
  member : e ∈ draft.edges
  single : ∃ node ∈ draft.nodes, node.id = e.target ∧
    ∃ inlet, node.Has inlet ∧ inlet.name = e.inlet ∧ inlet.multiple = false
  fresh : watch.id ∉ draft.ids
  kind : NodeKind.ofText watch.kind = .ok .watch
  options : ∃ options, NodeOptions.read .watch watch.options = .ok options
  nodes : draft'.nodes.Perm (watch :: draft.nodes)
  edges : draft'.edges.Perm (e.before watch.id :: e.after watch.id :: draft.edges.erase e)

namespace Draft.Rerouted

variable {draft draft' : Draft} {e : Edge} {watch : DraftNode}
  (h : draft.Rerouted e watch draft')

include h

theorem ids : draft'.ids.Perm (watch.id :: draft.ids) := h.nodes.map DraftNode.id

theorem mem_edges {other : Edge} (member : other ∈ draft'.edges) :
    other = e.before watch.id ∨ other = e.after watch.id ∨ other ∈ draft.edges := by
  have member := h.edges.mem_iff.mp member
  simp only [List.mem_cons] at member
  obtain before | after | old := member
  · exact .inl before
  · exact .inr (.inl after)
  · exact .inr (.inr (List.mem_of_mem_erase old))

theorem source_ne (wellFormed : draft.WellFormed) : e.source ≠ watch.id := by
  intro same
  exact h.fresh (same ▸ (wellFormed.ends e h.member).1)

theorem target_ne (wellFormed : draft.WellFormed) : e.target ≠ watch.id := by
  intro same
  exact h.fresh (same ▸ (wellFormed.ends e h.member).2.1)

/-- All inlets of a watch take any number of edges. -/
theorem multiple_of_has {inlet : Inlet} (has : watch.Has inlet) :
    inlet = ⟨mainInlet, true⟩ := by
  obtain ⟨kind, kindRead, member⟩ := has
  cases Except.ok.inj (h.kind.symm.trans kindRead)
  exact List.mem_singleton.mp member

/-- The watch crowds no inlet: the edge out of it takes the place of the one it replaces. -/
theorem count_feeds (place : String × String) (elsewhere : place.1 ≠ watch.id) :
    (draft'.edges.map Edge.feeds).count place = (draft.edges.map Edge.feeds).count place := by
  have old := (List.perm_cons_erase h.member).map Edge.feeds
  have new := h.edges.map Edge.feeds
  have apart : (e.before watch.id).feeds ≠ place := by
    intro same
    exact elsewhere (same ▸ rfl)
  have follows : (e.after watch.id).feeds = e.feeds := rfl
  rw [new.count_eq, old.count_eq]
  simp [List.count_cons, apart, follows]

theorem wellFormed (wellFormed : draft.WellFormed) : draft'.WellFormed where
  distinct := h.ids.nodup_iff.mpr (List.nodup_cons.mpr ⟨h.fresh, wellFormed.distinct⟩)
  kinds node member := by
    cases List.mem_cons.mp (h.nodes.mem_iff.mp member) with
    | inl isWatch => exact ⟨.watch, isWatch ▸ h.kind⟩
    | inr old => exact wellFormed.kinds node old
  options node member kind kindRead := by
    cases List.mem_cons.mp (h.nodes.mem_iff.mp member) with
    | inl isWatch =>
        subst isWatch
        cases Except.ok.inj (h.kind.symm.trans kindRead)
        exact h.options
    | inr old => exact wellFormed.options node old kind kindRead
  ends other member := by
    obtain ⟨source, target, -⟩ := wellFormed.ends e h.member
    simp only [h.ids.mem_iff, List.mem_cons]
    obtain rfl | rfl | old := h.mem_edges member
    · exact ⟨.inr source, .inl rfl, h.source_ne wellFormed⟩
    · exact ⟨.inl rfl, .inr target, (h.target_ne wellFormed).symm⟩
    · obtain ⟨source, target, apart⟩ := wellFormed.ends other old
      exact ⟨.inr source, .inr target, apart⟩
  outlets other member := by
    obtain rfl | rfl | old := h.mem_edges member
    · rfl
    · rfl
    · exact wellFormed.outlets other old
  inlets other member := by
    simp only [h.nodes.mem_iff, List.mem_cons]
    obtain rfl | rfl | old := h.mem_edges member
    · have has : watch.Has ⟨mainInlet, true⟩ := ⟨.watch, h.kind, List.mem_singleton_self _⟩
      exact ⟨watch, .inl rfl, rfl, _, has, rfl⟩
    · obtain ⟨node, isNode, has⟩ := wellFormed.inlets e h.member
      exact ⟨node, .inr isNode, has⟩
    · obtain ⟨node, isNode, has⟩ := wellFormed.inlets other old
      exact ⟨node, .inr isNode, has⟩
  uncrowded node member inlet has single := by
    cases List.mem_cons.mp (h.nodes.mem_iff.mp member) with
    | inl isWatch =>
        subst isWatch
        rw [h.multiple_of_has has] at single
        cases single
    | inr old =>
        have elsewhere : node.id ≠ watch.id := by
          intro same
          exact h.fresh (same ▸ List.mem_map_of_mem old)
        rw [h.count_feeds (node.id, inlet.name) elsewhere]
        exact wellFormed.uncrowded node old inlet has single

theorem leads (wellFormed : draft.WellFormed) {above below : String}
    (leads : draft'.Leads above below) : (above = e.source ∧ below = watch.id) ∨
      draft.Leads (e.seen watch.id above) below ∧ below ≠ watch.id := by
  obtain ⟨other, member, rfl, rfl⟩ := leads
  obtain rfl | rfl | old := h.mem_edges member
  · exact .inl ⟨rfl, rfl⟩
  · exact .inr ⟨⟨e, h.member, (e.seen_watch watch.id).symm, rfl⟩, h.target_ne wellFormed⟩
  · obtain ⟨source, target, -⟩ := wellFormed.ends other old
    have apart := ne_of_mem_of_not_mem source h.fresh
    exact .inr ⟨⟨other, old, (Edge.seen_of_ne e apart).symm, rfl⟩,
      ne_of_mem_of_not_mem target h.fresh⟩

/-- A path leads along the old edges if the watch is taken for the source, but for the edge between
the two. -/
theorem path (wellFormed : draft.WellFormed) {above below : String}
    (path : Relation.TransGen draft'.Leads above below) :
    (above = e.source ∧ below = watch.id) ∨
      Relation.TransGen draft.Leads (e.seen watch.id above) (e.seen watch.id below) := by
  have source := h.source_ne wellFormed
  induction path with
  | single leads =>
      obtain between | ⟨leads, apart⟩ := h.leads wellFormed leads
      · exact .inl between
      · rw [Edge.seen_of_ne e apart]
        exact .inr (.single leads)
  | tail _ leads ih =>
      obtain ⟨rfl, rfl⟩ | ⟨leads, apart⟩ := h.leads wellFormed leads
      · obtain ⟨-, same⟩ | path := ih
        · exact absurd same source
        · rw [Edge.seen_of_ne e source] at path
          rw [Edge.seen_watch]
          exact .inr path
      · rw [Edge.seen_of_ne e apart]
        obtain ⟨rfl, rfl⟩ | path := ih
        · rw [Edge.seen_watch] at leads
          rw [Edge.seen_of_ne e source]
          exact .inr (.single leads)
        · exact .inr (path.tail leads)

theorem acyclic (wellFormed : draft.WellFormed) (acyclic : draft.Acyclic) : draft'.Acyclic := by
  intro id cycle
  cases h.path wellFormed cycle with
  | inl ends => exact h.source_ne wellFormed (ends.1.symm.trans ends.2)
  | inr cycle' => exact acyclic _ cycle'

theorem exists_validate {w : Workflow} (valid : draft.validate = .ok w) :
    ∃ w', draft'.validate = .ok w' := by
  obtain ⟨wellFormed, acyclic⟩ := exists_validate_iff.mp ⟨w, valid⟩
  exact exists_validate_iff.mpr ⟨h.wellFormed wellFormed, h.acyclic wellFormed acyclic⟩

end Draft.Rerouted

/-! ## Plans -/

/-- A plan in which an edge leads through a watch that the other plan does not have. -/
structure Plan.Rerouted (p p' : Plan) (e : Edge) (watch : String) : Prop where
  member : e ∈ p.edges
  fresh : watch ∉ p.nodes.keys
  apart : ∀ other ∈ p.edges, other.source ≠ watch ∧ other.target ≠ watch
  alone : ∀ other ∈ p.edges.erase e, other.feeds ≠ e.feeds
  nodes : ∀ id, id ≠ watch → p'.nodes.find? id = p.nodes.find? id
  passes : ∃ node o, p'.nodes.find? watch = some node ∧ node.options = .watch o
  edges : p'.edges.Perm (e.before watch :: e.after watch :: p.edges.erase e)

namespace Plan.Rerouted

variable {p p' : Plan} {e : Edge} {watch id : String} (h : p.Rerouted p' e watch)

include h

theorem apart_erase {other : Edge} (member : other ∈ p.edges.erase e) :
    other.source ≠ watch ∧ other.target ≠ watch :=
  h.apart other (List.mem_of_mem_erase member)

theorem filter_elsewhere (notWatch : id ≠ watch) (notTarget : id ≠ e.target) :
    (p.edges.filter (·.target == id)).Perm (p'.edges.filter (·.target == id)) := by
  have old := (List.perm_cons_erase h.member).filter (·.target == id)
  have new := h.edges.filter (·.target == id)
  refine old.trans (List.Perm.trans (.of_eq ?_) new.symm)
  simp [Edge.before, Edge.after, notWatch.symm, notTarget.symm]

theorem predecessors_elsewhere (notWatch : id ≠ watch) (notTarget : id ≠ e.target) :
    p.predecessors id = p'.predecessors id :=
  predecessors_congr (h.filter_elsewhere notWatch notTarget)

theorem sourcesAt_elsewhere (notWatch : id ≠ watch) (notTarget : id ≠ e.target) (inlet : String) :
    p.sourcesAt id inlet = p'.sourcesAt id inlet :=
  sourcesAt_congr (h.filter_elsewhere notWatch notTarget) inlet

/-- Nothing but the edge leads into its inlet. -/
theorem filter_inlet : (p.edges.erase e).filter
    (fun other => other.target == e.target && other.inlet == e.inlet) = [] := by
  apply List.filter_eq_nil_iff.mpr
  intro other member
  simpa [Edge.feeds] using h.alone other member

theorem sourcesAt_inlet : p.sourcesAt e.target e.inlet = [e.source] := by
  apply sourcesAt_singleton
  have old := (List.perm_cons_erase h.member).filter
    fun other => other.target == e.target && other.inlet == e.inlet
  simpa [h.filter_inlet] using old

theorem sourcesAt_inlet' : p'.sourcesAt e.target e.inlet = [watch] := by
  apply sourcesAt_singleton (e := e.after watch)
  have new := h.edges.filter fun other => other.target == e.target && other.inlet == e.inlet
  have target := (h.apart e h.member).2
  simpa [Edge.before, Edge.after, h.filter_inlet, target.symm] using new

theorem sourcesAt_otherwise {inlet : String} (other : inlet ≠ e.inlet) :
    p.sourcesAt e.target inlet = p'.sourcesAt e.target inlet := by
  apply sourcesAt_eq
  have old := (List.perm_cons_erase h.member).filter
    fun other => other.target == e.target && other.inlet == inlet
  have new := h.edges.filter fun other => other.target == e.target && other.inlet == inlet
  have target := (h.apart e h.member).2
  refine old.trans (List.Perm.trans (.of_eq ?_) new.symm)
  simp [Edge.before, Edge.after, other.symm, target.symm]

theorem sourcesAt_watch : p'.sourcesAt watch mainInlet = [e.source] := by
  apply sourcesAt_singleton (e := e.before watch)
  have new := h.edges.filter fun other => other.target == watch && other.inlet == mainInlet
  have none : (p.edges.erase e).filter
      (fun other => other.target == watch && other.inlet == mainInlet) = [] := by
    apply List.filter_eq_nil_iff.mpr
    intro other member
    simp [(h.apart_erase member).2]
  have target := (h.apart e h.member).2
  simpa [Edge.before, Edge.after, none, target] using new

theorem feeds_watch_iff {feeder : String} : p'.Feeds feeder watch ↔ feeder = e.source := by
  simp only [Feeds, mem_predecessors, h.edges.mem_iff, List.mem_cons]
  constructor
  · intro feeds
    obtain ⟨other, rfl | rfl | old, source, target⟩ := feeds
    · exact source.symm
    · exact absurd target (h.apart e h.member).2
    · exact absurd target (h.apart_erase old).2
  · intro same
    exact ⟨e.before watch, .inl rfl, same.symm, rfl⟩

theorem feeds_target_iff {feeder : String} : p'.Feeds feeder e.target ↔ feeder = watch ∨
    ∃ other ∈ p.edges.erase e, other.source = feeder ∧ other.target = e.target := by
  simp only [Feeds, mem_predecessors, h.edges.mem_iff, List.mem_cons]
  constructor
  · intro feeds
    obtain ⟨other, rfl | rfl | old, source, target⟩ := feeds
    · exact absurd target.symm (h.apart e h.member).2
    · exact .inl source.symm
    · exact .inr ⟨other, old, source, target⟩
  · intro feeds
    obtain rfl | ⟨other, old, source, target⟩ := feeds
    · exact ⟨e.after feeder, .inr (.inl rfl), rfl, rfl⟩
    · exact ⟨other, .inr (.inr old), source, target⟩

theorem watch_feeds_target : p'.Feeds watch e.target := h.feeds_target_iff.mpr (.inl rfl)

theorem feeds_target : p.Feeds e.source e.target :=
  (mem_predecessors p _ _).mpr ⟨e, h.member, rfl, rfl⟩

theorem feeds_of_feeds {feeder : String} (feeds : p'.Feeds feeder e.target) :
    feeder = watch ∨ p.Feeds feeder e.target := by
  obtain same | ⟨other, old, source, target⟩ := h.feeds_target_iff.mp feeds
  · exact .inl same
  · exact .inr ((mem_predecessors p _ _).mpr ⟨other, List.mem_of_mem_erase old, source, target⟩)

theorem feeds_or_source {feeder : String} (feeds : p.Feeds feeder e.target) :
    feeder = e.source ∨ p'.Feeds feeder e.target := by
  obtain ⟨other, member, source, target⟩ := (mem_predecessors p _ _).mp feeds
  cases List.mem_cons.mp ((List.perm_cons_erase h.member).mem_iff.mp member) with
  | inl same => exact .inl (same ▸ source.symm)
  | inr old => exact .inr (h.feeds_target_iff.mpr (.inr ⟨other, old, source, target⟩))

end Plan.Rerouted

theorem Draft.Rerouted.plan {draft draft' : Draft} {e : Edge} {watch : DraftNode} {w w' : Workflow}
    (h : draft.Rerouted e watch draft') (valid : draft.validate = .ok w)
    (valid' : draft'.validate = .ok w') : w.plan.Rerouted w'.plan e watch.id := by
  obtain ⟨wellFormed, -⟩ := exists_validate_iff.mp ⟨w, valid⟩
  have edges : w.plan.edges = draft.edges := by
    obtain ⟨-, -, rfl⟩ := validate_eq_ok_iff.mp valid
    rfl
  have edges' : w'.plan.edges = draft'.edges := by
    obtain ⟨-, -, rfl⟩ := validate_eq_ok_iff.mp valid'
    rfl
  refine ⟨edges ▸ h.member, ?_, ?_, ?_, ?_, ?_, ?_⟩
  · exact fun known => h.fresh (validate_keys valid ▸ known)
  · intro other member
    obtain ⟨source, target, -⟩ := wellFormed.ends other (edges ▸ member)
    exact ⟨ne_of_mem_of_not_mem source h.fresh, ne_of_mem_of_not_mem target h.fresh⟩
  · intro other member same
    obtain ⟨node, isNode, target, inlet, has, named, single⟩ := h.single
    have most := wellFormed.uncrowded node isNode inlet has single
    have place : (node.id, inlet.name) = e.feeds := by rw [target, named, Edge.feeds]
    have member' : e.feeds ∈ (draft.edges.erase e).map Edge.feeds :=
      List.mem_map.mpr ⟨other, edges ▸ member, same⟩
    rw [place, ((List.perm_cons_erase h.member).map Edge.feeds).count_eq, List.map_cons,
      List.count_cons_self] at most
    have positive := List.count_pos_iff.mpr member'
    omega
  · intro id notWatch
    refine find?_congr valid valid' fun node same => ?_
    have other : node ≠ watch := fun isWatch => notWatch (same ▸ isWatch ▸ rfl)
    simp [h.nodes.mem_iff, other]
  · obtain ⟨node, found, readAs⟩ :=
      find?_of_validate valid' (h.nodes.mem_iff.mpr List.mem_cons_self)
    have kind := Except.ok.inj (readAs.kind.symm.trans h.kind)
    refine ⟨node, ?_⟩
    cases options : node.options with
    | watch o => exact ⟨o, found, rfl⟩
    | _ => simp [Node.kind, options, NodeOptions.kind] at kind
  · exact edges ▸ edges' ▸ h.edges

/-! ## A graph with a watch and without it -/

/-- Every option may be left out. -/
theorem NodeOptions.exists_read_nil (kind : NodeKind) : ∃ options, read kind [] = .ok options := by
  cases kind <;>
    · simp only [read, closed, unreadKeys, List.map_nil, List.filter_nil, readFields, readTriple,
        namedOption, optionAt, spelled?_nil]
      exact ⟨_, rfl⟩

/-- The geometry of a model, maybe watched. -/
def Draft.picked : Draft where
  nodes := [⟨"model", "source", [], none⟩, ⟨"pick", "geometry", [], none⟩]
  edges := [⟨"model", "pick", mainOutlet, mainInlet⟩]

def Draft.pickedWatched : Draft where
  nodes := [⟨"view", "watch", [], none⟩, ⟨"model", "source", [], none⟩,
    ⟨"pick", "geometry", [], none⟩]
  edges := [⟨"model", "view", mainOutlet, mainInlet⟩, ⟨"view", "pick", mainOutlet, mainInlet⟩]

theorem NodeKind.ofText_picked : NodeKind.ofText "source" = .ok .source ∧
    NodeKind.ofText "geometry" = .ok .geometry ∧ NodeKind.ofText "watch" = .ok .watch :=
  ⟨NodeKind.ofText_of_name (by decide +kernel) (by decide),
    NodeKind.ofText_of_name (by decide +kernel) (by decide),
    NodeKind.ofText_of_name (by decide +kernel) (by decide)⟩

theorem Draft.wellFormed_picked : Draft.picked.WellFormed := by
  obtain ⟨source, geometry, -⟩ := NodeKind.ofText_picked
  refine ⟨by decide, ?_, ?_, by decide, by decide, ?_, ?_⟩
  · simp [picked, source, geometry]
  · simp [picked, source, geometry, NodeOptions.exists_read_nil]
  · simp [picked, geometry, DraftNode.Has]
    decide
  · intro node _ inlet _ _
    exact List.count_le_length

theorem Draft.acyclic_picked : Draft.picked.Acyclic := by
  intro id cycle
  have ends {above below : String} (leads : Draft.picked.Leads above below) :
      above = "model" ∧ below = "pick" := by
    obtain ⟨e, member, rfl, rfl⟩ := leads
    cases List.mem_singleton.mp member
    exact ⟨rfl, rfl⟩
  obtain ⟨below, first, -⟩ := Relation.TransGen.head'_iff.mp cycle
  obtain ⟨above, -, last⟩ := Relation.TransGen.tail'_iff.mp cycle
  have same := (ends first).1.symm.trans (ends last).2
  simp at same

theorem Draft.rerouted_picked : Draft.picked.Rerouted ⟨"model", "pick", mainOutlet, mainInlet⟩
    ⟨"view", "watch", [], none⟩ Draft.pickedWatched := by
  obtain ⟨-, geometry, watch⟩ := NodeKind.ofText_picked
  refine ⟨by decide, ?_, by decide, watch, NodeOptions.exists_read_nil .watch, .refl _, .refl _⟩
  exact ⟨⟨"pick", "geometry", [], none⟩, by simp [picked], rfl, ⟨mainInlet, false⟩,
    ⟨.geometry, geometry, by decide⟩, rfl, rfl⟩

end BuildingWorkflow
