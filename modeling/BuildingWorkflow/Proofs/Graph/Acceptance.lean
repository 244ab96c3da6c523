import BuildingWorkflow.Proofs.Graph.Validation

/-!
Which graphs are taken.

Nodes are checked first and edges after them, each edge with a view to those before it. All of that
comes down to conditions on the nodes, on single edges, on how often an inlet is fed, and on cycles.
A graph that meets them is taken as it was submitted, and any other is refused with issues.
-/
namespace BuildingWorkflow

/-! ## Nodes -/

/-- What a submitted node is taken for: the kind that it names, the options of that kind, and the
same label. -/
structure DraftNode.ReadAs (draft : DraftNode) (node : Node) : Prop where
  id : node.id = draft.id
  kind : NodeKind.ofText draft.kind = .ok node.kind
  options : NodeOptions.read node.kind draft.options = .ok node.options
  label : node.label = draft.label

theorem DraftNode.check_eq_ok_iff {draft : DraftNode} {node : Node} :
    draft.check = .ok node ↔ draft.ReadAs node := by
  constructor
  · intro h
    unfold check at h
    split at h
    · cases h
    · rename_i kind kindRead
      split at h
      · cases h
      · rename_i options optionsRead
        cases h
        obtain rfl := NodeOptions.kind_of_read optionsRead
        exact ⟨rfl, kindRead, optionsRead, rfl⟩
  · rintro ⟨id, kind, options, label⟩
    rw [check_of_read kind options, ← id, ← label]

theorem DraftNode.ReadAs.unique {draft : DraftNode} {node node' : Node} (h : draft.ReadAs node)
    (h' : draft.ReadAs node') : node = node' :=
  Except.ok.inj ((check_eq_ok_iff.mpr h).symm.trans (check_eq_ok_iff.mpr h'))

/-- A submitted node has an inlet when the kind that it names has it. -/
def DraftNode.Has (draft : DraftNode) (inlet : Inlet) : Prop :=
  ∃ kind, NodeKind.ofText draft.kind = .ok kind ∧ inlet ∈ kind.inlets

theorem NodeKind.inlet?_eq_some_iff {kind : NodeKind} {name : String} {inlet : Inlet} :
    kind.inlet? name = some inlet ↔ inlet ∈ kind.inlets ∧ inlet.name = name := by
  constructor
  · intro found
    exact ⟨List.mem_of_find?_eq_some found, by simpa using List.find?_some found⟩
  · rintro ⟨member, rfl⟩
    revert inlet
    cases kind <;> decide

/-! ## Accepted nodes -/

namespace Draft

variable (draft : Draft)

/-- No other node has the identifier of a submitted node. -/
structure Single (node : DraftNode) : Prop where
  listed : node ∈ draft.nodes
  once : draft.ids.count node.id = 1

/-- A node that is read without issues and is the only one with its identifier. -/
def Accepts (node : Node) : Prop := ∃ submitted, draft.Single submitted ∧ submitted.ReadAs node

variable {draft}

theorem mem_singles_iff {node : DraftNode} : node ∈ draft.singles ↔ draft.Single node := by
  rw [singles, List.mem_filter, decide_eq_true_iff]
  constructor
  · rintro ⟨listed, most⟩
    have least : 0 < draft.ids.count node.id := List.count_pos_iff.mpr (List.mem_map_of_mem listed)
    exact ⟨listed, Nat.le_antisymm most least⟩
  · rintro ⟨listed, once⟩
    exact ⟨listed, once.le⟩

theorem nodup_ids_singles (draft : Draft) : (draft.singles.map DraftNode.id).Nodup := by
  rw [List.nodup_iff_count_le_one]
  intro id
  by_cases member : id ∈ draft.singles.map DraftNode.id
  · obtain ⟨node, single, rfl⟩ := List.mem_map.mp member
    have part : (draft.singles.map DraftNode.id).Sublist draft.ids := List.filter_sublist.map _
    exact (part.count_le node.id).trans (mem_singles_iff.mp single).once.le
  · rw [List.count_eq_zero.mpr member]
    exact Nat.zero_le 1

theorem entry_of_check {node : DraftNode} {entry : String × Node} :
    (node.check.toOption.map fun read => (read.id, read)) = some entry ↔
      node.ReadAs entry.2 ∧ entry.1 = node.id := by
  obtain ⟨id, read⟩ := entry
  rw [Option.map_eq_some_iff]
  constructor
  · rintro ⟨read, checked, same⟩
    cases same
    have readAs : node.ReadAs read := by
      rw [← DraftNode.check_eq_ok_iff]
      cases checked' : node.check with
      | error issues => rw [checked'] at checked; cases checked
      | ok other => rw [checked'] at checked; cases checked; rfl
    exact ⟨readAs, readAs.id⟩
  · rintro ⟨readAs, rfl⟩
    exact ⟨read, by rw [DraftNode.check_eq_ok_iff.mpr readAs]; rfl, by rw [readAs.id]⟩

theorem find?_accepted_iff {id : String} {node : Node} :
    draft.accepted.find? id = some node ↔ draft.Accepts node ∧ node.id = id := by
  have distinct : ((draft.singles.filterMap fun node =>
      node.check.toOption.map fun n => (n.id, n)).map Prod.fst).Nodup := by
    rw [List.map_filterMap, List.Nodup, List.pairwise_filterMap]
    refine (List.pairwise_map.mp (nodup_ids_singles draft)).imp fun {a b} different => ?_
    intro _ kept _ kept' same
    obtain ⟨entry, checked, rfl⟩ := Option.map_eq_some_iff.mp kept
    obtain ⟨entry', checked', rfl⟩ := Option.map_eq_some_iff.mp kept'
    rw [(entry_of_check.mp checked).2, (entry_of_check.mp checked').2] at same
    exact different same
  simp only [← OrderedMap.mem_entries_iff, accepted, OrderedMap.entries_ofList distinct,
    List.mem_filterMap, entry_of_check, mem_singles_iff]
  constructor
  · rintro ⟨submitted, single, readAs, rfl⟩
    exact ⟨⟨submitted, single, readAs⟩, readAs.id⟩
  · rintro ⟨⟨submitted, single, readAs⟩, rfl⟩
    exact ⟨submitted, single, readAs, readAs.id⟩

end Draft

/-! ## Graphs -/

namespace Draft

/-- All that is asked of a submitted graph, except that it have no cycle. -/
structure WellFormed (draft : Draft) : Prop where
  distinct : draft.ids.Nodup
  kinds : ∀ node ∈ draft.nodes, ∃ kind, NodeKind.ofText node.kind = .ok kind
  options : ∀ node ∈ draft.nodes, ∀ kind, NodeKind.ofText node.kind = .ok kind →
    ∃ options, NodeOptions.read kind node.options = .ok options
  ends : ∀ e ∈ draft.edges, e.source ∈ draft.ids ∧ e.target ∈ draft.ids ∧ e.source ≠ e.target
  outlets : ∀ e ∈ draft.edges, e.outlet = mainOutlet
  inlets : ∀ e ∈ draft.edges, ∃ node ∈ draft.nodes, node.id = e.target ∧
    ∃ inlet, node.Has inlet ∧ inlet.name = e.inlet
  uncrowded : ∀ node ∈ draft.nodes, ∀ inlet, node.Has inlet → inlet.multiple = false →
    (draft.edges.map Edge.feeds).count (node.id, inlet.name) ≤ 1

/-- An edge leads from one node to the other. -/
def Leads (draft : Draft) (feeder id : String) : Prop :=
  ∃ e ∈ draft.edges, e.source = feeder ∧ e.target = id

def Acyclic (draft : Draft) : Prop := ∀ id, ¬ Relation.TransGen draft.Leads id id

variable {draft : Draft}

theorem exists_readAs (kinds : ∀ node ∈ draft.nodes, ∃ kind, NodeKind.ofText node.kind = .ok kind)
    (options : ∀ node ∈ draft.nodes, ∀ kind, NodeKind.ofText node.kind = .ok kind →
      ∃ options, NodeOptions.read kind node.options = .ok options) {node : DraftNode}
    (member : node ∈ draft.nodes) : ∃ read, node.ReadAs read := by
  obtain ⟨kind, kindRead⟩ := kinds node member
  obtain ⟨options, optionsRead⟩ := options node member kind kindRead
  exact ⟨⟨node.id, options, node.label⟩,
    DraftNode.check_eq_ok_iff.mp (DraftNode.check_of_read kindRead optionsRead)⟩

theorem nodeIssues_eq_nil_iff_readAs : draft.nodeIssues = [] ↔
    draft.ids.Nodup ∧ ∀ node ∈ draft.nodes, ∃ read, node.ReadAs read := by
  rw [nodeIssues_eq_nil_iff]
  refine and_congr_right fun distinct => ?_
  rw [singles_eq_nodes distinct]
  refine forall₂_congr fun node _ => ?_
  constructor
  · intro clean
    obtain ⟨read, checked⟩ := DraftNode.exists_check clean
    exact ⟨read, DraftNode.check_eq_ok_iff.mp checked⟩
  · rintro ⟨read, readAs⟩
    unfold DraftNode.issues
    rw [DraftNode.check_eq_ok_iff.mpr readAs]

/-- Without issues the accepted nodes are the submitted ones as they are read. -/
theorem exists_find?_accepted (clean : draft.nodeIssues = []) {node : DraftNode}
    (member : node ∈ draft.nodes) :
    ∃ read, draft.accepted.find? node.id = some read ∧ node.ReadAs read := by
  obtain ⟨distinct, readable⟩ := nodeIssues_eq_nil_iff_readAs.mp clean
  obtain ⟨read, readAs⟩ := readable node member
  have once : draft.ids.count node.id = 1 :=
    List.count_eq_one_of_mem distinct (List.mem_map_of_mem member)
  exact ⟨read, find?_accepted_iff.mpr ⟨⟨node, ⟨member, once⟩, readAs⟩, readAs.id⟩, readAs⟩

theorem inletAt?_accepted (clean : draft.nodeIssues = []) {place : String × String}
    {inlet : Inlet} : inletAt? draft.accepted place = some inlet ↔
      ∃ node ∈ draft.nodes, node.id = place.1 ∧ node.Has inlet ∧ inlet.name = place.2 := by
  rw [inletAt?, Option.bind_eq_some_iff]
  constructor
  · rintro ⟨read, found, known⟩
    have isNode := OrderedMap.mem_keys_of_find? found
    rw [(accepted_eq clean).1, ids, List.mem_map] at isNode
    obtain ⟨node, member, same⟩ := isNode
    obtain ⟨read', found', readAs⟩ := exists_find?_accepted clean member
    cases Option.some.inj (found.symm.trans (same ▸ found'))
    obtain ⟨has, named⟩ := NodeKind.inlet?_eq_some_iff.mp known
    exact ⟨node, member, same, ⟨_, readAs.kind, has⟩, named⟩
  · rintro ⟨node, member, same, ⟨kind, kindRead, has⟩, named⟩
    obtain ⟨read, found, readAs⟩ := exists_find?_accepted clean member
    cases Except.ok.inj (kindRead.symm.trans readAs.kind)
    exact ⟨read, same ▸ found, NodeKind.inlet?_eq_some_iff.mpr ⟨has, named⟩⟩

/-- What is checked step by step is what is asked of a graph. -/
theorem issues_eq_nil_iff : draft.issues = [] ↔ draft.WellFormed := by
  rw [issues, List.append_eq_nil_iff]
  constructor
  · rintro ⟨clean, edges⟩
    obtain ⟨joins, bound⟩ := (edgeIssues_accepted_eq_nil_iff clean).mp edges
    obtain ⟨distinct, readable⟩ := nodeIssues_eq_nil_iff_readAs.mp clean
    refine ⟨distinct, fun node member => ?_, ?_, ?_, ?_, fun e member => ?_, ?_⟩
    · obtain ⟨read, readAs⟩ := readable node member
      exact ⟨read.kind, readAs.kind⟩
    · intro node member kind kindRead
      obtain ⟨read, readAs⟩ := readable node member
      cases Except.ok.inj (kindRead.symm.trans readAs.kind)
      exact ⟨read.options, readAs.options⟩
    · exact fun e member => ⟨(joins e member).source, (joins e member).target, (joins e member).apart⟩
    · exact fun e member => (joins e member).outlet
    · obtain ⟨inlet, known⟩ := (joins e member).inlet
      obtain ⟨node, isNode, same, has, named⟩ := (inletAt?_accepted clean).mp known
      exact ⟨node, isNode, same, inlet, has, named⟩
    · intro node member inlet has single
      exact bound _ ⟨inlet, (inletAt?_accepted clean).mpr ⟨node, member, rfl, has, rfl⟩, single⟩
  · intro h
    have clean : draft.nodeIssues = [] := nodeIssues_eq_nil_iff_readAs.mpr
      ⟨h.distinct, fun node member => exists_readAs h.kinds h.options member⟩
    refine ⟨clean, (edgeIssues_accepted_eq_nil_iff clean).mpr ⟨fun e member => ?_, ?_⟩⟩
    · obtain ⟨source, target, apart⟩ := h.ends e member
      obtain ⟨node, isNode, same, inlet, has, named⟩ := h.inlets e member
      exact ⟨source, target, apart, h.outlets e member, inlet,
        (inletAt?_accepted clean).mpr ⟨node, isNode, same, has, named⟩⟩
    · rintro ⟨target, name⟩ ⟨inlet, known, single⟩
      obtain ⟨node, member, rfl, has, rfl⟩ := (inletAt?_accepted clean).mp known
      exact h.uncrowded node member inlet has single

theorem mem_next_digraph (id below : String) :
    below ∈ draft.digraph.next id ↔ draft.Leads id below := by
  simp [digraph, Digraph.mem_next_ofEdges, Leads]

theorem findCycle_digraph_eq_none_iff (clean : draft.issues = []) :
    draft.digraph.findCycle = .ok none ↔ draft.Acyclic := by
  have nodup : draft.digraph.nodes.Nodup := Digraph.nodup_nodes_ofEdges _ _
  simp only [Digraph.findCycle_eq_none_iff nodup (closed_digraph clean), mem_next_digraph, Acyclic]

theorem exists_validate_iff :
    (∃ w, draft.validate = .ok w) ↔ draft.WellFormed ∧ draft.Acyclic := by
  simp only [validate_eq_ok_iff, ← issues_eq_nil_iff]
  constructor
  · rintro ⟨w, clean, searched, -⟩
    exact ⟨clean, (findCycle_digraph_eq_none_iff clean).mp searched⟩
  · rintro ⟨clean, acyclic⟩
    exact ⟨_, clean, (findCycle_digraph_eq_none_iff clean).mpr acyclic, rfl⟩

/-- A refusal names a cycle just when there were no issues before the search for one. -/
theorem name_of_validate {fault : Fault} (h : draft.validate = .error fault) :
    fault.name = "CycleDetectedError" ↔ draft.WellFormed := by
  rw [← issues_eq_nil_iff]
  obtain ⟨some, rfl⟩ | ⟨none, path, rfl⟩ := refused_of_validate h
  · simp [Fault.name, Fault.names, some]
  · simp [Fault.name, Fault.names, none]

theorem find?_of_validate {w : Workflow} (h : draft.validate = .ok w) {node : DraftNode}
    (member : node ∈ draft.nodes) :
    ∃ read, w.nodes.find? node.id = some read ∧ node.ReadAs read := by
  obtain ⟨clean, -, rfl⟩ := validate_eq_ok_iff.mp h
  exact exists_find?_accepted (List.append_eq_nil_iff.mp clean).1 member

/-- A node that two graphs list alike is the same in both. -/
theorem find?_congr {draft' : Draft} {w w' : Workflow} (valid : draft.validate = .ok w)
    (valid' : draft'.validate = .ok w') {id : String}
    (same : ∀ node : DraftNode, node.id = id → (node ∈ draft'.nodes ↔ node ∈ draft.nodes)) :
    w'.nodes.find? id = w.nodes.find? id := by
  by_cases known : id ∈ draft.ids
  · obtain ⟨node, member, rfl⟩ := List.mem_map.mp known
    obtain ⟨read, found, readAs⟩ := find?_of_validate valid member
    obtain ⟨read', found', readAs'⟩ := find?_of_validate valid' ((same node rfl).mpr member)
    rw [found, found', readAs'.unique readAs]
  · have unknown : id ∉ draft'.ids := by
      intro member
      obtain ⟨node, isNode, rfl⟩ := List.mem_map.mp member
      exact known (List.mem_map_of_mem ((same node rfl).mp isNode))
    rw [← validate_keys valid, ← OrderedMap.find?_eq_none_iff] at known
    rw [← validate_keys valid', ← OrderedMap.find?_eq_none_iff] at unknown
    rw [known, unknown]

/-- A graph is taken just when it is well-formed and has no cycle. Its nodes are then read as they
name themselves and its edges stay. Any other graph is refused with issues, and on account of a
cycle alone when it is well-formed. -/
theorem taken_or_refused (draft : Draft) :
    ((∃ w, draft.validate = .ok w) ↔ draft.WellFormed ∧ draft.Acyclic) ∧
    (∀ w, draft.validate = .ok w → w.nodes.keys = draft.ids ∧ w.edges = draft.edges ∧
      ∀ node ∈ draft.nodes, ∃ read, w.nodes.find? node.id = some read ∧ node.ReadAs read) ∧
    (¬ (draft.WellFormed ∧ draft.Acyclic) → ∃ fault issues, draft.validate = .error fault ∧
      "GraphValidationError" ∈ fault.names ∧ fault.issues? = some issues ∧ issues ≠ [] ∧
      (fault.name = "CycleDetectedError" ↔ draft.WellFormed ∧ ¬ draft.Acyclic)) := by
  refine ⟨exists_validate_iff, fun w taken => ⟨validate_keys taken, ?_, fun node member => ?_⟩,
    fun bad => ?_⟩
  · obtain ⟨-, -, rfl⟩ := validate_eq_ok_iff.mp taken
    rfl
  · exact find?_of_validate taken member
  · cases outcome : draft.validate with
    | ok w => exact absurd (exists_validate_iff.mp ⟨w, outcome⟩) bad
    | error fault =>
        obtain ⟨issues, listed, some⟩ := issues_of_validate outcome
        refine ⟨fault, issues, rfl, Fault.name_of_issues listed, listed, some, ?_⟩
        rw [name_of_validate outcome]
        exact ⟨fun wellFormed => ⟨wellFormed, fun acyclic => bad ⟨wellFormed, acyclic⟩⟩, And.left⟩

theorem wellFormed_watched : Draft.watched.WellFormed ∧ Draft.watched.Acyclic :=
  (taken_or_refused .watched).1.mp ⟨_, validate_watched⟩

end Draft

end BuildingWorkflow
