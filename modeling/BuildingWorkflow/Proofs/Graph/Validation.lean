import BuildingWorkflow.Graph.Plan
import BuildingWorkflow.Proofs.Graph.Cycle
import BuildingWorkflow.Proofs.Graph.Order
import BuildingWorkflow.Proofs.Options.Explained
import BuildingWorkflow.Proofs.Options.Reading
import Mathlib.Data.List.Permutation

/-!
What validation ensures.

A graph that is taken has its submitted nodes, each once, edges between them only, and no cycle, so
its plan is in order. A graph that is not taken comes with its issues.
-/
namespace BuildingWorkflow

/-! ## Nodes -/

theorem DraftNode.id_of_check {draft : DraftNode} {node : Node} (h : draft.check = .ok node) :
    node.id = draft.id := by
  unfold check at h
  split at h
  · cases h
  · split at h
    · cases h
    · cases h; rfl

theorem DraftNode.exists_check {draft : DraftNode} (h : draft.issues = []) :
    ∃ node, draft.check = .ok node := by
  unfold issues at h
  cases checked : draft.check with
  | ok node => exact ⟨node, rfl⟩
  | error issues =>
      rw [checked] at h
      subst h
      unfold check at checked
      split at checked
      · cases checked
      · split at checked
        · rename_i refused
          have none := List.map_eq_nil_iff.mp (Except.error.inj checked)
          exact absurd none (NodeOptions.faults_ne_nil_of_read refused)
        · cases checked

/-! ## Edges -/

/-- The inlet of a node under a name. -/
def inletAt? (nodes : OrderedMap Node) (place : String × String) : Option Inlet :=
  (nodes.find? place.1).bind fun node => node.kind.inlet? place.2

/-- An inlet that takes one edge. -/
def Narrow (nodes : OrderedMap Node) (place : String × String) : Prop :=
  ∃ inlet, inletAt? nodes place = some inlet ∧ inlet.multiple = false

/-- An edge leads from the outlet of a node into an inlet of another one. -/
structure Joins (ids : List String) (nodes : OrderedMap Node) (e : Edge) : Prop where
  source : e.source ∈ ids
  target : e.target ∈ ids
  apart : e.source ≠ e.target
  outlet : e.outlet = mainOutlet
  inlet : ∃ inlet, inletAt? nodes e.feeds = some inlet

section Edges

variable {ids : List String} {nodes : OrderedMap Node} (accepted : ∀ id ∈ ids, id ∈ nodes.keys)

include accepted

theorem edgeIssues_cons_eq_nil_iff (index : Nat) (fed : List (String × String)) (e : Edge)
    (rest : List Edge) : edgeIssues ids nodes index fed (e :: rest) = [] ↔
      Joins ids nodes e ∧ (Narrow nodes e.feeds → fed.count e.feeds ≠ 1) ∧
        edgeIssues ids nodes (index + 1) (e.feeds :: fed) rest = [] := by
  by_cases source : e.source ∈ ids
  · by_cases target : e.target ∈ ids
    · by_cases apart : e.source = e.target
      · have loop : ¬ Joins ids nodes e := fun joins => joins.apart apart
        simp [edgeIssues, target, apart, loop]
      · obtain ⟨node, found⟩ := OrderedMap.exists_find? (accepted _ target)
        cases inlet : node.kind.inlet? e.inlet with
        | none =>
            have closed : ¬ Joins ids nodes e := fun joins => by
              obtain ⟨inlet', known⟩ := joins.inlet
              simp [inletAt?, Edge.feeds, found, inlet] at known
            simp [edgeIssues, source, target, apart, found, inlet, closed]
        | some inlet' =>
            have known : inletAt? nodes e.feeds = some inlet' := by
              simp [inletAt?, Edge.feeds, found, inlet]
            have joins : Joins ids nodes e ↔ e.outlet = mainOutlet :=
              ⟨Joins.outlet, fun outlet => ⟨source, target, apart, outlet, inlet', known⟩⟩
            have narrow : Narrow nodes e.feeds ↔ inlet'.multiple = false := by
              simp [Narrow, known]
            simp [edgeIssues, source, target, apart, found, inlet, joins, narrow]
    · have missing : ¬ Joins ids nodes e := fun joins => target joins.target
      simp [edgeIssues, source, target, missing]
  · have missing : ¬ Joins ids nodes e := fun joins => source joins.source
    simp [edgeIssues, source, missing]

/-- Edges have no issues when each of them joins two nodes and none of them crowds an inlet. -/
theorem edgeIssues_eq_nil_iff (index : Nat) {fed : List (String × String)} {edges : List Edge}
    (uncrowded : ∀ place, Narrow nodes place → fed.count place ≤ 1) :
    edgeIssues ids nodes index fed edges = [] ↔ (∀ e ∈ edges, Joins ids nodes e) ∧
      ∀ place, Narrow nodes place →
        fed.count place + (edges.map Edge.feeds).count place ≤ 1 := by
  induction edges generalizing index fed with
  | nil => simpa [edgeIssues] using uncrowded
  | cons e rest ih =>
      rw [edgeIssues_cons_eq_nil_iff accepted, List.forall_mem_cons, and_assoc]
      refine and_congr_right fun _ => ?_
      have moved (place : String × String) :
          fed.count place + ((e :: rest).map Edge.feeds).count place =
            (e.feeds :: fed).count place + (rest.map Edge.feeds).count place := by
        rw [List.map_cons, List.count_cons, List.count_cons]
        omega
      simp only [moved]
      constructor
      · rintro ⟨room, clean⟩
        refine (ih (index + 1) fun place narrow => ?_).mp clean
        have before := uncrowded place narrow
        rw [List.count_cons]
        split
        · rename_i same
          rw [beq_iff_eq] at same
          have free := room (same ▸ narrow)
          rw [same] at free
          omega
        · exact before
      · rintro ⟨joins, bound⟩
        have uncrowded' : ∀ place, Narrow nodes place → (e.feeds :: fed).count place ≤ 1 :=
          fun place narrow => le_trans (Nat.le_add_right ..) (bound place narrow)
        refine ⟨fun narrow => ?_, (ih (index + 1) uncrowded').mpr ⟨joins, bound⟩⟩
        have here := uncrowded' e.feeds narrow
        rw [List.count_cons_self] at here
        omega

end Edges

/-! ## Graphs -/

/-- Whatever lists issues is reported as a fault of the graph. -/
theorem Fault.name_of_issues {fault : Fault} {issues : List Issue}
    (h : fault.issues? = some issues) : "GraphValidationError" ∈ fault.names := by
  cases fault with
  | invalidGraph _ | cycle _ _ => simp [names]
  | _ => cases h

namespace Draft

variable {draft : Draft}

theorem mem_duplicates_iff {id : String} : id ∈ draft.duplicates ↔ 1 < draft.ids.count id := by
  rw [duplicates, List.mem_filter, mem_sortedNames, decide_eq_true_iff]
  exact and_iff_right_of_imp fun used => List.count_pos_iff.mp (Nat.zero_lt_one.trans used)

theorem duplicates_eq_nil_iff : draft.duplicates = [] ↔ draft.ids.Nodup := by
  simp only [List.eq_nil_iff_forall_not_mem, mem_duplicates_iff, List.nodup_iff_count_le_one,
    Nat.not_lt]

theorem singles_eq_nodes (h : draft.ids.Nodup) : draft.singles = draft.nodes := by
  refine List.filter_eq_self.mpr fun node _ => ?_
  simpa using List.nodup_iff_count_le_one.mp h node.id

theorem nodeIssues_eq_nil_iff :
    draft.nodeIssues = [] ↔ draft.ids.Nodup ∧ ∀ node ∈ draft.singles, node.issues = [] := by
  rw [nodeIssues, List.append_eq_nil_iff, List.map_eq_nil_iff, duplicates_eq_nil_iff,
    List.flatMap_eq_nil_iff]

theorem map_fst_checked (clean : ∀ node ∈ draft.nodes, node.issues = []) :
    (draft.nodes.filterMap fun node => node.check.toOption.map fun n => (n.id, n)).map Prod.fst =
      draft.ids := by
  rw [List.map_filterMap, ids, ← List.filterMap_eq_map]
  refine List.filterMap_congr fun draft member => ?_
  obtain ⟨node, ok⟩ := DraftNode.exists_check (clean draft member)
  simp [ok, Except.toOption, DraftNode.id_of_check ok]

/-- Without issues every submitted node is accepted, in the same order. -/
theorem entries_accepted (h : draft.nodeIssues = []) : draft.accepted.entries =
    draft.nodes.filterMap fun node => node.check.toOption.map fun n => (n.id, n) := by
  obtain ⟨nodup, clean⟩ := nodeIssues_eq_nil_iff.mp h
  rw [singles_eq_nodes nodup] at clean
  rw [accepted, singles_eq_nodes nodup]
  exact OrderedMap.entries_ofList (map_fst_checked clean ▸ nodup)

/-- Without issues every submitted node is accepted, under its own name. -/
theorem accepted_eq (h : draft.nodeIssues = []) :
    draft.accepted.keys = draft.ids ∧
      ∀ id node, draft.accepted.find? id = some node → node.id = id := by
  obtain ⟨nodup, clean⟩ := nodeIssues_eq_nil_iff.mp h
  rw [singles_eq_nodes nodup] at clean
  refine ⟨by rw [OrderedMap.keys, entries_accepted h, map_fst_checked clean], fun id node found => ?_⟩
  rw [← OrderedMap.mem_entries_iff, entries_accepted h, List.mem_filterMap] at found
  obtain ⟨draft, -, ok⟩ := found
  rw [Option.map_eq_some_iff] at ok
  obtain ⟨n, -, same⟩ := ok
  rw [← (Prod.mk.inj same).1, ← (Prod.mk.inj same).2]

theorem edgeIssues_accepted_eq_nil_iff (clean : draft.nodeIssues = []) :
    edgeIssues draft.ids draft.accepted 0 [] draft.edges = [] ↔
      (∀ e ∈ draft.edges, Joins draft.ids draft.accepted e) ∧
        ∀ place, Narrow draft.accepted place → (draft.edges.map Edge.feeds).count place ≤ 1 := by
  have accepted : ∀ id ∈ draft.ids, id ∈ draft.accepted.keys := by
    rw [(accepted_eq clean).1]
    exact fun _ member => member
  rw [edgeIssues_eq_nil_iff accepted 0 (by simp)]
  simp

/-- The edges as a search for a cycle sees them. -/
def digraph (draft : Draft) : Digraph :=
  .ofEdges draft.accepted.keys (draft.edges.map fun e => (e.source, e.target))

theorem closed_digraph (h : draft.issues = []) : draft.digraph.Closed := by
  intro id below step
  obtain ⟨nodes, edges⟩ := List.append_eq_nil_iff.mp h
  rw [digraph, Digraph.mem_next_ofEdges, List.mem_map] at step
  obtain ⟨e, member, same⟩ := step
  rw [digraph, Digraph.mem_nodes_ofEdges, (accepted_eq nodes).1, ← (Prod.mk.inj same).2]
  exact (((edgeIssues_accepted_eq_nil_iff nodes).mp edges).1 e member).target

theorem validate_eq_ok_iff {w : Workflow} : draft.validate = .ok w ↔
    draft.issues = [] ∧ draft.digraph.findCycle = .ok none ∧
      w = ⟨draft.accepted, draft.edges⟩ := by
  unfold validate
  cases issues : draft.issues with
  | cons issue rest => exact ⟨nofun, nofun⟩
  | nil =>
      change (draft.digraph.findCycle >>= _) = _ ↔ _
      cases draft.digraph.findCycle with
      | error fault => exact ⟨nofun, nofun⟩
      | ok cycle =>
          cases cycle with
          | some path => exact ⟨nofun, nofun⟩
          | none =>
              constructor
              · intro h
                cases h
                exact ⟨rfl, rfl, rfl⟩
              · rintro ⟨-, -, rfl⟩
                rfl

/-- A graph that is not taken has issues, or it has none and the search finds a cycle. -/
theorem refused_of_validate {fault : Fault} (h : draft.validate = .error fault) :
    (draft.issues ≠ [] ∧ fault = .invalidGraph draft.issues) ∨
      (draft.issues = [] ∧ ∃ path, fault = .cycle (path.headD "") path) := by
  unfold validate at h
  cases issues : draft.issues with
  | cons issue rest =>
      rw [issues] at h
      exact .inl ⟨List.cons_ne_nil issue rest, (Except.error.inj h).symm⟩
  | nil =>
      rw [issues] at h
      change (draft.digraph.findCycle >>= _) = _ at h
      obtain ⟨cycle, found⟩ := Digraph.exists_findCycle (closed_digraph issues)
      rw [found] at h
      cases cycle with
      | none => cases h
      | some path => exact .inr ⟨rfl, path, (Except.error.inj h).symm⟩

theorem issues_of_validate {fault : Fault} (h : draft.validate = .error fault) :
    ∃ issues, fault.issues? = some issues ∧ issues ≠ [] := by
  obtain ⟨some, rfl⟩ | ⟨-, path, rfl⟩ := refused_of_validate h
  · exact ⟨_, rfl, some⟩
  · exact ⟨_, rfl, List.cons_ne_nil _ _⟩

variable {w : Workflow}

theorem validate_keys (h : draft.validate = .ok w) : w.nodes.keys = draft.ids := by
  obtain ⟨issues, -, rfl⟩ := validate_eq_ok_iff.mp h
  exact (accepted_eq (List.append_eq_nil_iff.mp issues).1).1

theorem id_of_validate (h : draft.validate = .ok w) {id : String} {node : Node}
    (found : w.nodes.find? id = some node) : node.id = id := by
  obtain ⟨issues, -, rfl⟩ := validate_eq_ok_iff.mp h
  exact (accepted_eq (List.append_eq_nil_iff.mp issues).1).2 id node found

theorem ends_of_validate (h : draft.validate = .ok w) {e : Edge} (member : e ∈ w.edges) :
    e.source ∈ w.nodes.keys ∧ e.target ∈ w.nodes.keys := by
  rw [validate_keys h]
  obtain ⟨issues, -, rfl⟩ := validate_eq_ok_iff.mp h
  obtain ⟨nodes, edges⟩ := List.append_eq_nil_iff.mp issues
  have joins := ((edgeIssues_accepted_eq_nil_iff nodes).mp edges).1 e member
  exact ⟨joins.source, joins.target⟩

theorem acyclic_of_validate (h : draft.validate = .ok w) (id : String) :
    ¬ Relation.TransGen w.plan.Feeds id id := by
  intro cycle
  obtain ⟨issues, found, rfl⟩ := validate_eq_ok_iff.mp h
  have nodup : draft.digraph.nodes.Nodup := Digraph.nodup_nodes_ofEdges _ _
  refine (Digraph.findCycle_eq_none_iff nodup (closed_digraph issues)).mp found id ?_
  refine Relation.TransGen.mono (fun feeder id feeds => ?_) _ _ cycle
  obtain ⟨e, member, rfl, rfl⟩ := (Plan.mem_predecessors _ feeder id).mp feeds
  exact (Digraph.mem_next_ofEdges _ _ _ _).mpr (List.mem_map_of_mem member)

theorem ordered_of_validate (h : draft.validate = .ok w) : w.plan.Ordered := by
  have known : ∀ feeder id, w.plan.Feeds feeder id →
      feeder ∈ w.nodes.keys ∧ id ∈ w.nodes.keys := by
    intro feeder id feeds
    obtain ⟨e, member, rfl, rfl⟩ := (Plan.mem_predecessors w.plan feeder id).mp feeds
    exact ends_of_validate h member
  refine ⟨?_, fun before id after split feeder feeds => ?_,
    fun feeder id feeds => (known feeder id feeds).2⟩
  · have placed := Plan.perm_placeAll (acyclic_of_validate h) w.nodes.keys
    rwa [← OrderedMap.size_eq_length_keys] at placed
  · exact Plan.earlier_placeAll (p := w.plan) split feeder feeds (known feeder id feeds).1

end Draft

/-! ## A graph that is taken -/

/-- A text that comes down to the name of a kind stands for that kind. -/
theorem NodeKind.ofText_of_name {s : String} {kind : NodeKind}
    (named : lower (withoutNodeEnding (trim s)) = kind.name)
    (known : (Choice.ofName? kind.name : Option NodeKind) = some kind) :
    ofText s = .ok kind := by
  unfold ofText
  rw [named]
  split
  · rename_i other
    rw [other] at known
    cases known
  · rename_i other
    rw [other] at known
    cases known
  · rename_i other
    rw [other] at known
    cases known
  · rw [known]
    rfl

theorem DraftNode.check_of_read {draft : DraftNode} {kind : NodeKind} {options : NodeOptions}
    (kindRead : NodeKind.ofText draft.kind = .ok kind)
    (optionsRead : NodeOptions.read kind draft.options = .ok options) :
    draft.check = .ok ⟨draft.id, options, draft.label⟩ := by
  unfold check
  rw [kindRead]
  dsimp only
  rw [optionsRead]

theorem Draft.accepted_of_checks {draft : Draft} (nodup : draft.ids.Nodup) {nodes : List Node}
    (checked : draft.nodes.map DraftNode.check = nodes.map .ok) :
    draft.accepted = .ofList (nodes.map fun node => (node.id, node)) := by
  let entry (outcome : Except (List Issue) Node) : Option (String × Node) :=
    outcome.toOption.map fun node => (node.id, node)
  have entries : draft.nodes.filterMap (fun node => entry node.check) =
      nodes.map fun node => (node.id, node) := by
    rw [← Function.comp_def entry DraftNode.check, ← List.filterMap_map, checked,
      List.filterMap_map, ← List.filterMap_eq_map]
    rfl
  rw [accepted, singles_eq_nodes nodup]
  exact congrArg OrderedMap.ofList entries

/-- A model that is watched. -/
def Draft.watched : Draft where
  nodes := [⟨"model", "source", [], none⟩, ⟨"view", "watch", [], none⟩]
  edges := [⟨"model", "view", mainOutlet, mainInlet⟩]

def Workflow.watched : Workflow where
  nodes := .ofList [("model", ⟨"model", .source ⟨none⟩, none⟩),
    ("view", ⟨"view", .watch ⟨.table, false⟩, none⟩)]
  edges := [⟨"model", "view", mainOutlet, mainInlet⟩]

theorem check_watched : Draft.watched.nodes.map DraftNode.check =
    [⟨"model", .source ⟨none⟩, none⟩, ⟨"view", .watch ⟨.table, false⟩, none⟩].map .ok := by
  have model : NodeKind.ofText "source" = .ok .source :=
    NodeKind.ofText_of_name (by decide +kernel) (by decide)
  have view : NodeKind.ofText "watch" = .ok .watch :=
    NodeKind.ofText_of_name (by decide +kernel) (by decide)
  have modelOptions : NodeOptions.read .source [] = .ok (.source ⟨none⟩) := by
    simp only [NodeOptions.read, closed, unreadKeys, List.map_nil, List.filter_nil,
      NodeOptions.readFields, optionAt, spelled?_nil]
    rfl
  have viewOptions : NodeOptions.read .watch [] = .ok (.watch ⟨.table, false⟩) := by
    simp only [NodeOptions.read, closed, unreadKeys, List.map_nil, List.filter_nil,
      NodeOptions.readFields, optionAt, spelled?_nil]
    rfl
  exact congrArg₂ (fun a b => [a, b]) (DraftNode.check_of_read model modelOptions)
    (DraftNode.check_of_read view viewOptions)

theorem Draft.validate_watched : Draft.watched.validate = .ok Workflow.watched := by
  have accepted : Draft.watched.accepted = Workflow.watched.nodes :=
    accepted_of_checks (by decide) check_watched
  have clean : Draft.watched.issues = [] := by
    rw [issues, List.append_eq_nil_iff, nodeIssues_eq_nil_iff]
    exact ⟨⟨by decide, List.flatMap_eq_nil_iff.mp (by decide +kernel)⟩, by decide +kernel⟩
  refine validate_eq_ok_iff.mpr ⟨clean, ?_, by rw [accepted]; rfl⟩
  rw [digraph, accepted]
  cbv

end BuildingWorkflow
