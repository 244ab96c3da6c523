import BuildingWorkflow.Graph.Cycle
import BuildingWorkflow.Graph.Draft

/-!
Validation of graphs before anything runs.

All structural issues are reported together: those of the nodes first, then those of the edges, each
in the order of the document. A graph without any is searched for a cycle.
-/
namespace BuildingWorkflow

/-- A node with options that were read for its kind. -/
structure Node where
  id : String
  options : NodeOptions
  label : Option String

namespace Node

def kind (node : Node) : NodeKind := node.options.kind

/-- The label of a node, or its kind and identifier when it has none. -/
def displayName (node : Node) : String :=
  (node.label.filter (· != "")).getD (node.kind.name ++ ":" ++ node.id)

end Node

/-- A graph that passed validation. -/
structure Workflow where
  nodes : OrderedMap Node
  edges : List Edge

/-! ## Nodes -/

def duplicateIssue (id : String) (count : Nat) : Issue where
  code := "duplicate_node"
  message := s!"Node id '{id}' is used {count} times"
  node := some id

def optionIssue (id : String) (fault : OptionFault) : Issue where
  code := "invalid_config"
  message := s!"Node '{id}' option '" ++ fault.placeName "config" ++ "': " ++ fault.cause.message
  node := some id

/-- A submitted node with its kind and options read, or the issues that keep it from being one. -/
def DraftNode.check (node : DraftNode) : Except (List Issue) Node :=
  match NodeKind.ofText node.kind with
  | .error fault => .error [⟨"unknown_kind", fault.message, some node.id, none⟩]
  | .ok kind =>
      match NodeOptions.read kind node.options with
      | .error faults => .error (faults.map (optionIssue node.id))
      | .ok options => .ok ⟨node.id, options, node.label⟩

def DraftNode.issues (node : DraftNode) : List Issue :=
  match node.check with
  | .error issues => issues
  | .ok _ => []

namespace Draft

/-- The identifiers used more than once, in order. -/
def duplicates (draft : Draft) : List String :=
  (sortedNames draft.ids).filter fun id => 1 < draft.ids.count id

/-- The nodes whose identifier no other node has. -/
def singles (draft : Draft) : List DraftNode :=
  draft.nodes.filter fun node => draft.ids.count node.id ≤ 1

def nodeIssues (draft : Draft) : List Issue :=
  (draft.duplicates.map fun id => duplicateIssue id (draft.ids.count id)) ++
    draft.singles.flatMap DraftNode.issues

/-- The nodes without issues. -/
def accepted (draft : Draft) : OrderedMap Node :=
  .ofList (draft.singles.filterMap fun node => node.check.toOption.map fun n => (n.id, n))

end Draft

/-! ## Edges -/

def missingIssue (index : Nat) (id : String) : Issue where
  code := "missing_node"
  message := s!"Edge {index} references unknown node '{id}'"
  node := some id
  edge := some index

def loopIssue (index : Nat) (e : Edge) : Issue where
  code := "self_loop"
  message := s!"Edge {index} connects node '{e.source}' to itself"
  node := some e.source
  edge := some index

def outletIssue (index : Nat) (e : Edge) : Issue where
  code := "unknown_port"
  message := s!"Edge {index}: node '{e.source}' has no output port '{e.outlet}'"
  node := some e.source
  edge := some index

def inletIssue (index : Nat) (kind : NodeKind) (e : Edge) : Issue where
  code := "unknown_port"
  message := s!"Edge {index}: {kind.name} node '{e.target}' has no input port '{e.inlet}'"
  node := some e.target
  edge := some index

def fanInIssue (index : Nat) (e : Edge) : Issue where
  code := "port_fan_in"
  message := s!"Input port '{e.inlet}' of node '{e.target}' accepts one edge"
  node := some e.target
  edge := some index

/-- The inlet that an edge feeds. -/
def Edge.feeds (e : Edge) : String × String := (e.target, e.inlet)

/-- The issues of the edges from a position on. `fed` lists the inlets that edges before it feed;
the second edge into an inlet that takes one is the one reported. A target that is not accepted was
reported before, so its inlets are not looked at. -/
def edgeIssues (ids : List String) (nodes : OrderedMap Node) (index : Nat)
    (fed : List (String × String)) : List Edge → List Issue
  | [] => []
  | e :: rest =>
      let missing := [e.source, e.target].filter fun id => !ids.contains id
      if !missing.isEmpty then
        missing.map (missingIssue index) ++ edgeIssues ids nodes (index + 1) fed rest
      else if e.source = e.target then
        loopIssue index e :: edgeIssues ids nodes (index + 1) fed rest
      else
        (if e.outlet = mainOutlet then [] else [outletIssue index e]) ++
        match nodes.find? e.target with
        | none => edgeIssues ids nodes (index + 1) fed rest
        | some target =>
            match target.kind.inlet? e.inlet with
            | none =>
                inletIssue index target.kind e :: edgeIssues ids nodes (index + 1) fed rest
            | some inlet =>
                (if !inlet.multiple && fed.count e.feeds == 1 then [fanInIssue index e] else []) ++
                  edgeIssues ids nodes (index + 1) (e.feeds :: fed) rest

/-! ## Graphs -/

namespace Draft

def issues (draft : Draft) : List Issue :=
  draft.nodeIssues ++ edgeIssues draft.ids draft.accepted 0 [] draft.edges

/-- The graph with its nodes read, unless it has issues or a cycle. -/
def validate (draft : Draft) : Except Fault Workflow := do
  match draft.issues with
  | [] =>
      let nodes := draft.accepted
      let ends := draft.edges.map fun e => (e.source, e.target)
      match ← (Digraph.ofEdges nodes.keys ends).findCycle with
      | some path => throw (.cycle (path.headD "") path)
      | none => return ⟨nodes, draft.edges⟩
  | issues => throw (.invalidGraph issues)

end Draft

/-- The graph of a document, validated. -/
def Workflow.ofDocument (document : Value) : Except Fault Workflow := do
  (← Draft.ofDocument document).validate

end BuildingWorkflow
