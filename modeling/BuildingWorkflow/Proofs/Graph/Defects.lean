import BuildingWorkflow.Proofs.Graph.Acceptance
import Mathlib.Data.List.Nodup

/-!
The defects of a graph and their issues.

`Draft.Reports` lists what may be wrong with a submitted graph, each defect with the place where it
stands and with the issue that tells of it. That issues tell of all these defects once and of nothing
else is built up from single issues by the lemmas on `Tells`; the issues of nodes come first.
-/
namespace BuildingWorkflow

/-! ## Defects -/

/-- Where something is wrong with a graph. -/
inductive Defect
  | duplicate (id : String)
  | unknownKind (id : String)
  | badOption (id : String) (position : Nat)
  | missingSource (index : Nat)
  | missingTarget (index : Nat)
  | selfLoop (index : Nat)
  | unknownOutlet (index : Nat)
  | unknownInlet (index : Nat)
  | crowded (id inlet : String)

def Defect.code : Defect → String
  | duplicate _ => "duplicate_node"
  | unknownKind _ => "unknown_kind"
  | badOption _ _ => "invalid_config"
  | missingSource _ | missingTarget _ => "missing_node"
  | selfLoop _ => "self_loop"
  | unknownOutlet _ | unknownInlet _ => "unknown_port"
  | crowded _ _ => "port_fan_in"

/-- A defect of a submitted node and its issue. -/
inductive DraftNode.Reports (node : DraftNode) : Defect → Issue → Prop
  | unknownKind {fault : Fault} (unknown : NodeKind.ofText node.kind = .error fault) :
      Reports node (.unknownKind node.id) ⟨"unknown_kind", fault.message, some node.id, none⟩
  | badOption {kind : NodeKind} {faults : List OptionFault} {position : Nat} {fault : OptionFault}
      (known : NodeKind.ofText node.kind = .ok kind)
      (refused : NodeOptions.read kind node.options = .error faults)
      (detail : faults[position]? = some fault) :
      Reports node (.badOption node.id position) (optionIssue node.id fault)

namespace Draft

variable (draft : Draft)

/-- An edge leads from one node of a graph to another one. -/
structure Spans (e : Edge) : Prop where
  source : e.source ∈ draft.ids
  target : e.target ∈ draft.ids
  apart : e.source ≠ e.target

instance : DecidablePred draft.Spans := fun e =>
  decidable_of_iff (e.source ∈ draft.ids ∧ e.target ∈ draft.ids ∧ e.source ≠ e.target)
    ⟨fun ⟨source, target, apart⟩ => ⟨source, target, apart⟩,
      fun ⟨source, target, apart⟩ => ⟨source, target, apart⟩⟩

/-- The edges that lead from another node into a place, which is a node and the name of an inlet,
each with its index. -/
def feeders (place : String × String) : List (Edge × Nat) :=
  draft.edges.zipIdx.filter fun entry => draft.Spans entry.1 ∧ entry.1.feeds = place

/-- A defect of the end of an edge at an accepted node and its issue. -/
inductive InletReports (index : Nat) (e : Edge) : Defect → Issue → Prop
  | unknown {node : Node} (accepted : draft.Accepts node) (target : node.id = e.target)
      (undeclared : ∀ inlet ∈ node.kind.inlets, inlet.name ≠ e.inlet) :
      InletReports index e (.unknownInlet index) (inletIssue index node.kind e)
  /-- The second of the edges into an inlet that takes one. -/
  | crowded {node : Node} {inlet : Inlet} (accepted : draft.Accepts node)
      (target : node.id = e.target) (declared : inlet ∈ node.kind.inlets)
      (named : inlet.name = e.inlet) (narrow : inlet.multiple = false)
      (second : (draft.feeders (node.id, inlet.name))[1]? = some (e, index)) :
      InletReports index e (.crowded node.id inlet.name) (fanInIssue index e)

inductive EdgeReports (index : Nat) (e : Edge) : Defect → Issue → Prop
  | missingSource (unknown : e.source ∉ draft.ids) :
      EdgeReports index e (.missingSource index) (missingIssue index e.source)
  | missingTarget (unknown : e.target ∉ draft.ids) :
      EdgeReports index e (.missingTarget index) (missingIssue index e.target)
  | selfLoop (known : e.source ∈ draft.ids) (loop : e.source = e.target) :
      EdgeReports index e (.selfLoop index) (loopIssue index e)
  | unknownOutlet (spans : draft.Spans e) (other : e.outlet ≠ mainOutlet) :
      EdgeReports index e (.unknownOutlet index) (outletIssue index e)
  | inlet {defect : Defect} {issue : Issue} (spans : draft.Spans e)
      (reports : draft.InletReports index e defect issue) : EdgeReports index e defect issue

inductive Reports : Defect → Issue → Prop
  | duplicate {id : String} (used : 1 < draft.ids.count id) :
      Reports (.duplicate id) (duplicateIssue id (draft.ids.count id))
  | node {node : DraftNode} {defect : Defect} {issue : Issue} (single : draft.Single node)
      (reports : node.Reports defect issue) : Reports defect issue
  | edge {index : Nat} {e : Edge} {defect : Defect} {issue : Issue}
      (listed : draft.edges[index]? = some e) (reports : draft.EdgeReports index e defect issue) :
      Reports defect issue

/-- The node where a defect stands. -/
def node? : Defect → Option String
  | .duplicate id | .unknownKind id | .badOption id _ | .crowded id _ => some id
  | .missingSource index | .selfLoop index | .unknownOutlet index =>
      draft.edges[index]?.map Edge.source
  | .missingTarget index | .unknownInlet index => draft.edges[index]?.map Edge.target

/-- The edge where a defect stands. -/
def index? : Defect → Option Nat
  | .missingSource index | .missingTarget index | .selfLoop index => some index
  | .unknownOutlet index | .unknownInlet index => some index
  | .crowded id inlet => (draft.feeders (id, inlet))[1]?.map Prod.snd
  | _ => none

/-- An issue has the code and the place of a defect. -/
structure Locates (defect : Defect) (issue : Issue) : Prop where
  code : issue.code = defect.code
  node : issue.node = draft.node? defect
  edge : issue.edge = draft.index? defect

end Draft

/-! ## Lists of issues -/

/-- Issues tell of the defects of a relation, of each of them once and of nothing else. -/
def Tells (issues : List Issue) (reports : Defect → Issue → Prop) : Prop :=
  ∃ found : List (Defect × Issue), found.map Prod.snd = issues ∧
    (found.map Prod.fst).Nodup ∧ ∀ defect issue, (defect, issue) ∈ found ↔ reports defect issue

namespace Tells

variable {α : Type} {issues issues' : List Issue} {reports reports' : Defect → Issue → Prop}

theorem of_iff (h : Tells issues reports)
    (same : ∀ defect issue, reports defect issue ↔ reports' defect issue) :
    Tells issues reports' := by
  obtain ⟨found, told, nodup, complete⟩ := h
  exact ⟨found, told, nodup, fun defect issue => (complete defect issue).trans (same defect issue)⟩

theorem nil (none : ∀ defect issue, ¬ reports defect issue) : Tells [] reports :=
  ⟨[], rfl, List.nodup_nil, fun defect issue => by simpa using none defect issue⟩

/-- One issue for every item of a list, each of a defect of its own. -/
theorem map {items : List α} {defect : α → Defect} (issue : α → Issue)
    (distinct : (items.map defect).Nodup) :
    Tells (items.map issue) fun d i => ∃ a ∈ items, defect a = d ∧ issue a = i :=
  ⟨items.map fun a => (defect a, issue a), by simp, by simpa [Function.comp_def] using distinct,
    fun d i => by simp⟩

theorem single (defect : Defect) (issue : Issue) :
    Tells [issue] fun d i => defect = d ∧ issue = i :=
  ⟨[(defect, issue)], rfl, List.nodup_singleton _, fun d i => by simp [eq_comm]⟩

theorem guarded (p : Prop) [Decidable p] (defect : Defect) (issue : Issue) :
    Tells (if p then [] else [issue]) fun d i => ¬ p ∧ defect = d ∧ issue = i := by
  split
  · next holds => exact nil fun _ _ h => h.1 holds
  · next fails => exact (single defect issue).of_iff fun d i => (and_iff_right fails).symm

theorem append (h : Tells issues reports) (h' : Tells issues' reports')
    (apart : ∀ defect issue issue', reports defect issue → ¬ reports' defect issue') :
    Tells (issues ++ issues') fun defect issue => reports defect issue ∨ reports' defect issue := by
  obtain ⟨found, rfl, nodup, complete⟩ := h
  obtain ⟨found', rfl, nodup', complete'⟩ := h'
  refine ⟨found ++ found', List.map_append, ?_, fun defect issue => by
    rw [List.mem_append, complete, complete']⟩
  rw [List.map_append]
  refine List.nodup_append'.mpr ⟨nodup, nodup', fun defect member member' => ?_⟩
  obtain ⟨⟨_, issue⟩, listed, rfl⟩ := List.mem_map.mp member
  obtain ⟨⟨_, issue'⟩, listed', same⟩ := List.mem_map.mp member'
  subst same
  exact apart _ _ _ ((complete _ _).mp listed) ((complete' _ _).mp listed')

theorem flatMap {items : List α} {issues : α → List Issue} {reports : α → Defect → Issue → Prop}
    (each : ∀ a ∈ items, Tells (issues a) (reports a))
    (apart : items.Pairwise fun a b => ∀ defect issue issue', reports a defect issue →
      ¬ reports b defect issue') :
    Tells (items.flatMap issues) fun defect issue => ∃ a ∈ items, reports a defect issue := by
  induction items with
  | nil => exact nil fun _ _ h => by simp at h
  | cons a rest ih =>
      obtain ⟨first, apart⟩ := List.pairwise_cons.mp apart
      rw [List.forall_mem_cons] at each
      rw [List.flatMap_cons]
      refine (append each.1 (ih each.2 apart) ?_).of_iff fun defect issue => by simp
      rintro defect issue issue' here ⟨b, member, there⟩
      exact first b member defect issue issue' here there

theorem exists_of_mem (h : Tells issues reports) {issue : Issue} (member : issue ∈ issues) :
    ∃ defect, reports defect issue := by
  obtain ⟨found, rfl, -, complete⟩ := h
  obtain ⟨⟨defect, issue⟩, listed, rfl⟩ := List.mem_map.mp member
  exact ⟨defect, (complete defect issue).mp listed⟩

end Tells

/-! ## Nodes -/

theorem tells_faults (id : String) (faults : List OptionFault) :
    Tells (faults.map (optionIssue id)) fun defect issue => ∃ position fault,
      faults[position]? = some fault ∧ .badOption id position = defect ∧
        optionIssue id fault = issue := by
  have distinct : (faults.zipIdx.map (Defect.badOption id ∘ Prod.snd)).Nodup := by
    rw [← List.map_map, List.zipIdx_map_snd]
    exact List.Nodup.map (fun _ _ same => (Defect.badOption.inj same).2) List.nodup_range'
  have issues : faults.map (optionIssue id) =
      faults.zipIdx.map (optionIssue id ∘ Prod.fst) := by
    rw [← List.map_map, List.zipIdx_map_fst]
  rw [issues]
  refine (Tells.map _ distinct).of_iff fun defect issue => ?_
  constructor
  · rintro ⟨⟨fault, position⟩, detail, same⟩
    exact ⟨position, fault, List.mem_zipIdx_iff_getElem?.mp detail, same⟩
  · rintro ⟨position, fault, detail, same⟩
    exact ⟨(fault, position), List.mem_zipIdx_iff_getElem?.mpr detail, same⟩

namespace DraftNode

/-- A node tells of its own defects, whatever other nodes there are. -/
theorem tells (node : DraftNode) : Tells node.issues node.Reports := by
  unfold issues check
  cases kindRead : NodeKind.ofText node.kind with
  | error fault =>
      refine (Tells.single (.unknownKind node.id) _).of_iff fun defect issue => ?_
      constructor
      · rintro ⟨rfl, rfl⟩
        exact .unknownKind kindRead
      · intro reports
        cases reports with
        | unknownKind unknown =>
            cases kindRead.symm.trans unknown
            exact ⟨rfl, rfl⟩
        | badOption known => cases kindRead.symm.trans known
  | ok kind =>
      dsimp only
      cases optionsRead : NodeOptions.read kind node.options with
      | error faults =>
          refine (tells_faults node.id faults).of_iff fun defect issue => ?_
          constructor
          · rintro ⟨position, fault, detail, rfl, rfl⟩
            exact .badOption kindRead optionsRead detail
          · intro reports
            cases reports with
            | unknownKind unknown => cases kindRead.symm.trans unknown
            | badOption known refused detail =>
                cases kindRead.symm.trans known
                cases optionsRead.symm.trans refused
                exact ⟨_, _, detail, rfl, rfl⟩
      | ok options =>
          refine Tells.nil fun defect issue reports => ?_
          cases reports with
          | unknownKind unknown => cases kindRead.symm.trans unknown
          | badOption known refused =>
              cases kindRead.symm.trans known
              cases optionsRead.symm.trans refused

theorem Reports.locates {node : DraftNode} {defect : Defect} {issue : Issue}
    (reports : node.Reports defect issue) (draft : Draft) : draft.Locates defect issue := by
  cases reports <;> exact ⟨rfl, rfl, rfl⟩

theorem Reports.node?_eq {node : DraftNode} {defect : Defect} {issue : Issue}
    (reports : node.Reports defect issue) (draft : Draft) : draft.node? defect = some node.id := by
  cases reports <;> rfl

end DraftNode

namespace Draft

theorem tells_nodeIssues (draft : Draft) : Tells draft.nodeIssues fun defect issue =>
    (∃ id, 1 < draft.ids.count id ∧ .duplicate id = defect ∧
      duplicateIssue id (draft.ids.count id) = issue) ∨
    ∃ node, draft.Single node ∧ node.Reports defect issue := by
  have distinct : (draft.duplicates.map Defect.duplicate).Nodup :=
    ((nodup_sortedNames draft.ids).filter _).map fun _ _ => Defect.duplicate.inj
  have singles : draft.singles.Pairwise fun node node' => ∀ defect issue issue',
      node.Reports defect issue → ¬ node'.Reports defect issue' :=
    (List.pairwise_map.mp (nodup_ids_singles draft)).imp fun different _ _ _ reports reports' =>
      different (Option.some.inj ((reports.node?_eq draft).symm.trans (reports'.node?_eq draft)))
  refine (Tells.append (Tells.map (fun id => duplicateIssue id (draft.ids.count id)) distinct)
    (Tells.flatMap (fun node _ => node.tells) singles) ?_).of_iff fun defect issue => ?_
  · rintro _ _ _ ⟨id, -, rfl, -⟩ ⟨node, -, reports⟩
    cases reports
  · simp only [mem_duplicates_iff, mem_singles_iff]

end Draft

end BuildingWorkflow
