import BuildingWorkflow.Node.Options

/-!
Graphs as they are submitted.

A document lists nodes with raw options and edges from outlets to inlets. Two shapes are taken: the
flat one, and that of canvas editors, which keep the options and the label of a node in a record of
its own and name some fields and inlets differently. Unknown fields are ignored.
-/
namespace BuildingWorkflow

structure DraftNode where
  id : String
  kind : String
  options : Bag
  label : Option String

structure Edge where
  source : String
  target : String
  outlet : String
  inlet : String
deriving DecidableEq

structure Draft where
  nodes : List DraftNode
  edges : List Edge

/-! ## Reading -/

/-- A field that is added unless it is there. -/
def Bag.withDefault (bag : Bag) (name : String) (value : Value) : Bag :=
  if (bag.lookup name).isSome then bag else bag ++ [(name, value)]

def dataField : String := "data"

/-- The options that a canvas record holds; what counts as nothing is an empty bag. -/
def canvasOptions (inner : Bag) : Value :=
  ((inner.lookup "properties").filter Value.truthy).getD (.map [])

/-- The options and the label of a canvas record, lifted into the node that holds it. -/
def liftData (bag : Bag) : Bag :=
  match bag.lookup dataField with
  | some (.map inner) =>
      let lifted := Bag.withDefault (bag.filter (·.1 != dataField)) "config" (canvasOptions inner)
      match inner.lookup "label" with
      | none | some .null => lifted
      | some label => lifted.withDefault "label" label
  | _ => bag

def readMapping : Value → Reading Bag
  | .map bag => .ok bag
  | _ => .refused [⟨[], .notMapping⟩]

/-- A record with fields of its own, by the name under which it is asked for. -/
def readRecord {α : Type} (name : String) (read : Bag → Reading α) : Value → Reading α
  | .map bag => read bag
  | _ => .refused [⟨[], .notRecord name⟩]

def readList {α : Type} (read : Value → Reading α) : Value → Reading (List α)
  | .list values => Reading.items read 0 values
  | _ => .refused [⟨[], .notList⟩]

def readNode : Value → Reading DraftNode :=
  readRecord "NodeSpec" fun bag =>
    let bag := liftData bag
    DraftNode.mk <$> requiredAt bag ["id"] (.ofScalar Scalar.nonemptyText)
      <*> requiredAt bag ["kind", "type"] (.ofScalar Scalar.text)
      <*> optionAt bag ["config", "properties"] [] readMapping
      <*> optionAt bag ["label"] none (.ofScalar (Scalar.optional Scalar.text))

/-- The name of an inlet; canvas editors have another one for the value inlet. -/
def readInlet (v : Value) : Reading String :=
  (Reading.ofScalar Scalar.text v).map fun inlet =>
    if inlet = "valueInput" then valueInlet else inlet

/-- An edge; fields that are null are as good as missing. -/
def readEdge : Value → Reading Edge :=
  readRecord "EdgeSpec" fun bag =>
    let bag := bag.filter fun entry => !entry.2.isNull
    Edge.mk <$> requiredAt bag ["source"] (.ofScalar Scalar.text)
      <*> requiredAt bag ["target"] (.ofScalar Scalar.text)
      <*> optionAt bag ["source_port", "sourcePort", "sourceHandle"] mainOutlet
        (.ofScalar Scalar.text)
      <*> optionAt bag ["target_port", "targetPort", "targetHandle"] mainInlet readInlet

def readDraft : Value → Reading Draft :=
  readRecord "WorkflowGraph" fun bag =>
    Draft.mk <$> optionAt bag ["nodes"] [] (readList readNode)
      <*> optionAt bag ["edges"] [] (readList readEdge)

/-- The issue of a part of a document that has the wrong shape. -/
def documentIssue (fault : OptionFault) : Issue where
  code := "invalid_document"
  message := fault.placeName "graph" ++ ": " ++ fault.cause.message

namespace Draft

/-- The graph that a document describes. -/
def ofDocument (document : Value) : Except Fault Draft :=
  match readDraft document with
  | .ok draft => .ok draft
  | .refused faults => .error (.invalidGraph (faults.map documentIssue))

def ids (draft : Draft) : List String := draft.nodes.map DraftNode.id

end Draft

end BuildingWorkflow
