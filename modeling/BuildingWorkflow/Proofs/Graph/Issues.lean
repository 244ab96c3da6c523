import BuildingWorkflow.Proofs.Graph.Defects

/-!
The issues of a graph.

Edges are checked one after the other, each with a list of the inlets that those before it feed.
`Draft.Tallies` says what that list holds. It is kept by every edge, so each edge has the issues of
its own defects, and validation tells of every defect of a graph once and of nothing else.
-/
namespace BuildingWorkflow

/-! ## Edges -/

/-- What is picked from a list with its indices comes in order: an item is picked after as many as
there are before it. -/
theorem getElem?_filter_zipIdx {α : Type} {p : α → Bool} {a : α} (before rest : List α)
    (h : p a) (k : Nat) :
    ((before ++ a :: rest).zipIdx.filter fun entry => p entry.1)[k]? = some (a, before.length) ↔
      before.countP p = k := by
  have count : (before.zipIdx.filter fun entry => p entry.1).length = before.countP p := by
    rw [← List.countP_eq_length_filter]
    calc before.zipIdx.countP (p ∘ Prod.fst) = (before.zipIdx.map Prod.fst).countP p :=
          List.countP_map.symm
      _ = before.countP p := by rw [List.zipIdx_map_fst]
  have placed : ((before ++ a :: rest).zipIdx.filter fun entry => p entry.1)[before.countP p]? =
      some (a, before.length) := by
    rw [List.zipIdx_append, List.filter_append,
      List.getElem?_append_right (Nat.le_of_eq count), count]
    simp [h]
  have distinct : ((before ++ a :: rest).zipIdx.filter fun entry => p entry.1).Nodup := by
    have positions : ((before ++ a :: rest).zipIdx.map Prod.snd).Nodup := by
      rw [List.zipIdx_map_snd]
      exact List.nodup_range'
    exact (List.Nodup.of_map _ positions).filter _
  constructor
  · intro found
    have bound := (List.getElem?_eq_some_iff.mp placed).1
    exact (List.getElem?_inj bound distinct).mp (placed.trans found.symm)
  · rintro rfl
    exact placed

namespace Draft

variable {draft : Draft} {before rest : List Edge} {e : Edge} {fed : List (String × String)}

theorem feeders_second_iff (split : draft.edges = before ++ e :: rest) (spans : draft.Spans e) :
    (draft.feeders e.feeds)[1]? = some (e, before.length) ↔
      (before.countP fun other => draft.Spans other ∧ other.feeds = e.feeds) = 1 := by
  rw [feeders, split]
  exact getElem?_filter_zipIdx (p := fun other => draft.Spans other ∧ other.feeds = e.feeds)
    before rest (by simpa using spans) 1

variable (draft) in
/-- Each inlet of an accepted node is listed as often as edges lead there. -/
def Tallies (before : List Edge) (fed : List (String × String)) : Prop :=
  ∀ place inlet, inletAt? draft.accepted place = some inlet →
    fed.count place = before.countP fun other => draft.Spans other ∧ other.feeds = place

theorem tallies_nil (draft : Draft) : draft.Tallies [] [] := fun _ _ _ => rfl

theorem Tallies.skip (tallies : draft.Tallies before fed)
    (other : draft.Spans e → inletAt? draft.accepted e.feeds = none) :
    draft.Tallies (before ++ [e]) fed := by
  intro place inlet known
  rw [tallies place inlet known, List.countP_append, List.countP_singleton, if_neg, Nat.add_zero]
  simp only [decide_eq_true_eq]
  rintro ⟨spans, rfl⟩
  rw [other spans] at known
  cases known

theorem Tallies.add (tallies : draft.Tallies before fed) (spans : draft.Spans e) :
    draft.Tallies (before ++ [e]) (e.feeds :: fed) := by
  intro place inlet known
  rw [List.count_cons, tallies place inlet known, List.countP_append, List.countP_singleton]
  simp [spans]

section Issues

variable (index : Nat)

theorem tells_missing (ends : ¬ (e.source ∈ draft.ids ∧ e.target ∈ draft.ids)) :
    Tells (([e.source, e.target].filter fun id => !draft.ids.contains id).map
      (missingIssue index)) (draft.EdgeReports index e) := by
  have issues : ([e.source, e.target].filter fun id => !draft.ids.contains id).map
      (missingIssue index) =
      (if e.source ∈ draft.ids then [] else [missingIssue index e.source]) ++
        if e.target ∈ draft.ids then [] else [missingIssue index e.target] := by
    by_cases source : e.source ∈ draft.ids <;> by_cases target : e.target ∈ draft.ids <;>
      simp [source, target]
  rw [issues]
  refine (Tells.append (Tells.guarded _ (.missingSource index) _)
    (Tells.guarded _ (.missingTarget index) _) ?_).of_iff fun defect issue => ?_
  · rintro _ _ _ ⟨-, rfl, -⟩ ⟨-, same, -⟩
    cases same
  · constructor
    · rintro (⟨unknown, rfl, rfl⟩ | ⟨unknown, rfl, rfl⟩)
      · exact .missingSource unknown
      · exact .missingTarget unknown
    · intro reports
      cases reports with
      | missingSource unknown => exact .inl ⟨unknown, rfl, rfl⟩
      | missingTarget unknown => exact .inr ⟨unknown, rfl, rfl⟩
      | selfLoop known loop => exact absurd ⟨known, loop ▸ known⟩ ends
      | unknownOutlet spans => exact absurd ⟨spans.source, spans.target⟩ ends
      | inlet spans => exact absurd ⟨spans.source, spans.target⟩ ends

theorem tells_loop (known : e.source ∈ draft.ids) (loop : e.source = e.target) :
    Tells [loopIssue index e] (draft.EdgeReports index e) := by
  refine (Tells.single (.selfLoop index) _).of_iff fun defect issue => ?_
  constructor
  · rintro ⟨rfl, rfl⟩
    exact .selfLoop known loop
  · intro reports
    cases reports with
    | missingSource unknown => exact absurd known unknown
    | missingTarget unknown => exact absurd (loop ▸ known) unknown
    | selfLoop => exact ⟨rfl, rfl⟩
    | unknownOutlet spans => exact absurd loop spans.apart
    | inlet spans => exact absurd loop spans.apart

theorem tells_spanning (spans : draft.Spans e) {issues : List Issue}
    (inlet : Tells issues (draft.InletReports index e)) :
    Tells ((if e.outlet = mainOutlet then [] else [outletIssue index e]) ++ issues)
      (draft.EdgeReports index e) := by
  refine (Tells.append (Tells.guarded _ (.unknownOutlet index) _) inlet ?_).of_iff
    fun defect issue => ?_
  · rintro _ _ _ ⟨-, rfl, -⟩ reports
    cases reports
  · constructor
    · rintro (⟨other, rfl, rfl⟩ | reports)
      · exact .unknownOutlet spans other
      · exact .inlet spans reports
    · intro reports
      cases reports with
      | missingSource unknown => exact absurd spans.source unknown
      | missingTarget unknown => exact absurd spans.target unknown
      | selfLoop known loop => exact absurd loop spans.apart
      | unknownOutlet _ other => exact .inl ⟨other, rfl, rfl⟩
      | inlet _ reports => exact .inr reports

theorem tells_unaccepted (none : draft.accepted.find? e.target = none) :
    Tells [] (draft.InletReports index e) := by
  have missing {node : Node} (accepted : draft.Accepts node) (target : node.id = e.target) :
      False := by
    cases none.symm.trans (find?_accepted_iff.mpr ⟨accepted, target⟩)
  refine Tells.nil fun defect issue reports => ?_
  cases reports with
  | unknown accepted target => exact missing accepted target
  | crowded accepted target => exact missing accepted target

variable {target : Node} (found : draft.accepted.find? e.target = some target)
include found

theorem eq_of_accepts {node : Node} (accepted : draft.Accepts node)
    (same : node.id = e.target) : node = target :=
  Option.some.inj ((find?_accepted_iff.mpr ⟨accepted, same⟩).symm.trans found)

theorem tells_undeclared (unknown : target.kind.inlet? e.inlet = none) :
    Tells [inletIssue index target.kind e] (draft.InletReports index e) := by
  obtain ⟨accepted, same⟩ := find?_accepted_iff.mp found
  have undeclared : ∀ inlet ∈ target.kind.inlets, inlet.name ≠ e.inlet := by
    intro inlet member named
    cases unknown.symm.trans (NodeKind.inlet?_eq_some_iff.mpr ⟨member, named⟩)
  refine (Tells.single (.unknownInlet index) _).of_iff fun defect issue => ?_
  constructor
  · rintro ⟨rfl, rfl⟩
    exact .unknown accepted same undeclared
  · intro reports
    cases reports with
    | unknown accepted' same' =>
        cases eq_of_accepts found accepted' same'
        exact ⟨rfl, rfl⟩
    | crowded accepted' same' declared named =>
        cases eq_of_accepts found accepted' same'
        exact absurd named (undeclared _ declared)

theorem tells_declared {inlet : Inlet} (known : target.kind.inlet? e.inlet = some inlet)
    {crowds : Prop} [Decidable crowds] (counted : crowds ↔ inlet.multiple = false ∧
      (draft.feeders e.feeds)[1]? = some (e, index)) :
    Tells (if crowds then [fanInIssue index e] else []) (draft.InletReports index e) := by
  obtain ⟨accepted, same⟩ := find?_accepted_iff.mp found
  obtain ⟨declared, named⟩ := NodeKind.inlet?_eq_some_iff.mp known
  have place : e.feeds = (target.id, inlet.name) := by rw [same, named]; rfl
  rw [← ite_not]
  refine (Tells.guarded (¬ crowds) (.crowded target.id inlet.name) _).of_iff fun defect issue => ?_
  rw [not_not, counted, place]
  constructor
  · rintro ⟨⟨narrow, second⟩, rfl, rfl⟩
    exact .crowded accepted same declared named narrow second
  · intro reports
    cases reports with
    | unknown accepted' same' undeclared =>
        cases eq_of_accepts found accepted' same'
        exact absurd named (undeclared inlet declared)
    | crowded accepted' same' declared' named' narrow second =>
        cases eq_of_accepts found accepted' same'
        have twin := known.symm.trans (NodeKind.inlet?_eq_some_iff.mpr ⟨declared', named'⟩)
        cases twin
        exact ⟨⟨narrow, second⟩, rfl, rfl⟩

end Issues

/-- What the edge at hand adds: its issues, and maybe an inlet to those that are fed. -/
theorem edgeIssues_cons (split : draft.edges = before ++ e :: rest)
    (tallies : draft.Tallies before fed) :
    ∃ here fed', edgeIssues draft.ids draft.accepted before.length fed (e :: rest) =
        here ++ edgeIssues draft.ids draft.accepted (before.length + 1) fed' rest ∧
      Tells here (draft.EdgeReports before.length e) ∧ draft.Tallies (before ++ [e]) fed' := by
  -- Only an edge that gets as far as a declared inlet is put among those that feed one.
  by_cases ends : e.source ∈ draft.ids ∧ e.target ∈ draft.ids
  · obtain ⟨source, target⟩ := ends
    by_cases apart : e.source = e.target
    · refine ⟨_, fed, ?_, tells_loop _ source apart,
        tallies.skip fun spans => absurd apart spans.apart⟩
      simp [edgeIssues, target, apart]
    · have spans : draft.Spans e := ⟨source, target, apart⟩
      cases found : draft.accepted.find? e.target with
      | none =>
          refine ⟨_, fed, ?_, tells_spanning _ spans (tells_unaccepted _ found),
            tallies.skip fun _ => by rw [inletAt?, Edge.feeds, found]; rfl⟩
          simp [edgeIssues, source, target, apart, found]
      | some node =>
          cases known : node.kind.inlet? e.inlet with
          | none =>
              refine ⟨_, fed, ?_, tells_spanning _ spans (tells_undeclared _ found known),
                tallies.skip fun _ => by rw [inletAt?, Edge.feeds, found]; exact known⟩
              simp [edgeIssues, source, target, apart, found, known]
          | some inlet =>
              have place : inletAt? draft.accepted e.feeds = some inlet := by
                rw [inletAt?, Edge.feeds, found]
                exact known
              have counted : (!inlet.multiple && fed.count e.feeds == 1) = true ↔
                  inlet.multiple = false ∧
                    (draft.feeders e.feeds)[1]? = some (e, before.length) := by
                rw [feeders_second_iff split spans, ← tallies _ _ place]
                simp
              refine ⟨_, e.feeds :: fed, ?_,
                tells_spanning _ spans (tells_declared _ found known counted), tallies.add spans⟩
              simp [edgeIssues, source, target, apart, found, known]
  · refine ⟨_, fed, ?_, tells_missing _ ends,
      tallies.skip fun spans => absurd ⟨spans.source, spans.target⟩ ends⟩
    have missing : (!([e.source, e.target].filter fun id => !draft.ids.contains id).isEmpty) := by
      by_cases source : e.source ∈ draft.ids
      · have target : e.target ∉ draft.ids := fun target => ends ⟨source, target⟩
        simp [source, target]
      · simp [source]
    rw [edgeIssues]
    exact if_pos missing

theorem EdgeReports.edge_eq {index : Nat} {defect : Defect} {issue : Issue}
    (reports : draft.EdgeReports index e defect issue) : issue.edge = some index := by
  cases reports with
  | inlet _ reports => cases reports <;> rfl
  | _ => rfl

theorem EdgeReports.index?_eq {index : Nat} {defect : Defect} {issue : Issue}
    (reports : draft.EdgeReports index e defect issue) : draft.index? defect = some index := by
  cases reports with
  | inlet _ reports =>
      cases reports with
      | unknown => rfl
      | crowded _ _ _ _ _ second => rw [index?, second]; rfl
  | _ => rfl

theorem EdgeReports.locates {index : Nat} {defect : Defect} {issue : Issue}
    (reports : draft.EdgeReports index e defect issue) (listed : draft.edges[index]? = some e) :
    draft.Locates defect issue := by
  refine ⟨?_, ?_, reports.edge_eq.trans reports.index?_eq.symm⟩
  · cases reports with
    | inlet _ reports => cases reports <;> rfl
    | _ => rfl
  · cases reports with
    | inlet _ reports =>
        cases reports with
        | unknown => rw [node?, listed]; rfl
        | crowded _ target => exact congrArg some target.symm
    | _ => rw [node?, listed]; rfl

/-- The defects of the edges from a position on. -/
def ReportsFrom (draft : Draft) (start : Nat) (defect : Defect) (issue : Issue) : Prop :=
  ∃ index e, start ≤ index ∧ draft.edges[index]? = some e ∧
    draft.EdgeReports index e defect issue

theorem tells_edgeIssues (split : draft.edges = before ++ rest)
    (tallies : draft.Tallies before fed) :
    Tells (edgeIssues draft.ids draft.accepted before.length fed rest)
      (draft.ReportsFrom before.length) := by
  -- One edge after the other: `Tallies` goes on from each to the next.
  induction rest generalizing before fed with
  | nil =>
      refine Tells.nil ?_
      rintro defect issue ⟨index, e, start, listed, -⟩
      rw [split, List.append_nil, List.getElem?_eq_none start] at listed
      cases listed
  | cons e rest ih =>
      obtain ⟨here, fed', issues, tells, tallies'⟩ := edgeIssues_cons split tallies
      have split' : draft.edges = (before ++ [e]) ++ rest := by rw [split, List.append_assoc]; rfl
      have later := ih split' tallies'
      rw [List.length_append, List.length_singleton] at later
      have listed : draft.edges[before.length]? = some e := by
        rw [split, List.getElem?_append_right (Nat.le_refl _), Nat.sub_self]
        rfl
      rw [issues]
      refine (tells.append later ?_).of_iff fun defect issue => ?_
      -- Even a crowded inlet is told of at a single edge, the second that leads there.
      · rintro defect issue issue' now ⟨index, e', start, -, after⟩
        have same := now.index?_eq.symm.trans after.index?_eq
        cases same
        omega
      · constructor
        · rintro (now | ⟨index, e', start, listed', reports⟩)
          · exact ⟨before.length, e, Nat.le_refl _, listed, now⟩
          · exact ⟨index, e', by omega, listed', reports⟩
        · rintro ⟨index, e', start, listed', reports⟩
          obtain rfl | start := Nat.eq_or_lt_of_le start
          · cases listed.symm.trans listed'
            exact .inl reports
          · exact .inr ⟨index, e', start, listed', reports⟩

theorem edge_of_mem_edgeIssues (split : draft.edges = before ++ rest)
    (tallies : draft.Tallies before fed) {issue : Issue}
    (member : issue ∈ edgeIssues draft.ids draft.accepted before.length fed rest) :
    ∃ index, issue.edge = some index ∧ before.length ≤ index := by
  obtain ⟨defect, index, e, start, -, reports⟩ := (tells_edgeIssues split tallies).exists_of_mem member
  exact ⟨index, reports.edge_eq, start⟩

theorem pairwise_edgeIssues (split : draft.edges = before ++ rest)
    (tallies : draft.Tallies before fed) :
    (edgeIssues draft.ids draft.accepted before.length fed rest).Pairwise
      fun issue issue' => issue.edge ≤ issue'.edge := by
  induction rest generalizing before fed with
  | nil => exact List.Pairwise.nil
  | cons e rest ih =>
      obtain ⟨here, fed', issues, tells, tallies'⟩ := edgeIssues_cons split tallies
      have split' : draft.edges = (before ++ [e]) ++ rest := by rw [split, List.append_assoc]; rfl
      have later := ih split' tallies'
      have index {issue : Issue} (member : issue ∈ here) : issue.edge = some before.length := by
        obtain ⟨defect, reports⟩ := tells.exists_of_mem member
        exact reports.edge_eq
      have length : (before ++ [e]).length = before.length + 1 := by simp
      rw [issues]
      refine List.pairwise_append.mpr ⟨?_, length ▸ later, fun issue member issue' member' => ?_⟩
      · refine List.pairwise_of_forall_mem_list fun issue member issue' member' => ?_
        rw [index member, index member']
        exact Option.some_le_some.mpr (Nat.le_refl _)
      · rw [← length] at member'
        obtain ⟨index', edge, start⟩ := edge_of_mem_edgeIssues split' tallies' member'
        rw [index member, edge, Option.some_le_some]
        omega

/-! ## Graphs -/

theorem tells_issues (draft : Draft) : Tells draft.issues draft.Reports := by
  have edges := tells_edgeIssues (List.nil_append draft.edges).symm (tallies_nil draft)
  refine ((tells_nodeIssues draft).append edges ?_).of_iff fun defect issue => ?_
  · rintro defect issue issue' reports ⟨index, e, -, -, reports'⟩
    have placed := reports'.index?_eq
    obtain ⟨id, -, rfl, -⟩ | ⟨node, -, reports⟩ := reports
    · cases placed
    · cases reports <;> cases placed
  · constructor
    · rintro ((⟨id, used, rfl, rfl⟩ | ⟨node, single, reports⟩) | ⟨index, e, -, listed, reports⟩)
      · exact .duplicate used
      · exact .node single reports
      · exact .edge listed reports
    · intro reports
      cases reports with
      | duplicate used => exact .inl (.inl ⟨_, used, rfl, rfl⟩)
      | node single reports => exact .inl (.inr ⟨_, single, reports⟩)
      | edge listed reports => exact .inr ⟨_, _, Nat.zero_le _, listed, reports⟩

theorem Reports.locates {defect : Defect} {issue : Issue} (reports : draft.Reports defect issue) :
    draft.Locates defect issue := by
  cases reports with
  | duplicate => exact ⟨rfl, rfl, rfl⟩
  | node _ reports => exact reports.locates draft
  | edge listed reports => exact reports.locates listed

theorem pairwise_issues (draft : Draft) :
    draft.issues.Pairwise fun issue issue' => issue.edge ≤ issue'.edge := by
  have edges := pairwise_edgeIssues (List.nil_append draft.edges).symm (tallies_nil draft)
  have nodes {issue : Issue} (member : issue ∈ draft.nodeIssues) : issue.edge = none := by
    obtain ⟨defect, ⟨id, -, -, rfl⟩ | ⟨node, -, reports⟩⟩ :=
      (tells_nodeIssues draft).exists_of_mem member
    · rfl
    · cases reports <;> rfl
  refine List.pairwise_append.mpr ⟨?_, edges, fun issue member issue' _ => ?_⟩
  · refine List.pairwise_of_forall_mem_list fun issue member issue' _ => ?_
    rw [nodes member]
    exact Option.none_le
  · rw [nodes member]
    exact Option.none_le

/-- Validation tells of every defect of a graph, of each of them once and of nothing else, with its
code and its place, the nodes before the edges and the edges in order. It refuses the graph with
just these issues if there are any. -/
theorem issues_complete (draft : Draft) :
    Tells draft.issues draft.Reports ∧
    (∀ defect issue, draft.Reports defect issue → draft.Locates defect issue) ∧
    (draft.issues.Pairwise fun issue issue' => issue.edge ≤ issue'.edge) ∧
    (draft.validate = .error (.invalidGraph draft.issues) ↔ draft.issues ≠ []) := by
  refine ⟨tells_issues draft, fun _ _ => Reports.locates, pairwise_issues draft,
    fun refused => ?_, fun some => ?_⟩
  · obtain ⟨some, -⟩ | ⟨-, path, cycle⟩ := refused_of_validate refused
    · exact some
    · cases cycle
  · cases outcome : draft.validate with
    | ok w => exact absurd (validate_eq_ok_iff.mp outcome).1 some
    | error fault =>
        obtain ⟨-, rfl⟩ | ⟨none, -⟩ := refused_of_validate outcome
        · rfl
        · exact absurd none some

/-- An edge from an unknown node to itself lacks both of its ends and is not taken for a loop. -/
example : (Draft.mk [] [⟨"a", "a", "left", "right"⟩]).issues =
    [missingIssue 0 "a", missingIssue 0 "a"] := by decide +kernel

end Draft

end BuildingWorkflow
