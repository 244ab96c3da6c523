import BuildingWorkflow.Ifc.Loading

/-!
Property sets written back into a file.

Each element is looked for in the file, by its number or by its global identifier, and the values of
its property sets that differ from those in the file are written. Elements that are not found change
nothing.

A set of the file is known by its number. Where several products share a set, the first of them
stands for all: the set is written there.
-/
namespace BuildingWorkflow

/-- A change of a file. -/
inductive Edit
  /-- A product gets a set that it does not have. -/
  | addSet (product : Int) (set : String)
  | editSet (product : Int) (set : String) (values : OrderedMap Value)

/-- A value as it can be written: null, texts, numbers and truth values as they are, all else as
text. -/
def writable : Value → Value
  | .list items => .text (Value.list items).display
  | .map entries => .text (Value.map entries).display
  | v => v

namespace Product

def globalId (p : Product) : Value :=
  ((p.entity.attribute? "GlobalId").map Attribute.plain).getD .null

end Product

namespace IfcFile

/-- The position of the product with a global identifier. -/
def positionOf? (file : IfcFile) (globalId : Value) : Option Nat :=
  file.products.findIdx? fun p => p.globalId.same globalId

/-- The position of the product that an element stands for: the product with its number, unless
that has another global identifier, or else the product with its global identifier. -/
def findProduct? (file : IfcFile) (e : Element) : Option Nat :=
  let globalId := e.globalId
  let numbered := (file.products.findIdx? (·.id == e.expressId)).filter fun i =>
    globalId.isNull || (file.products[i]?).elim false (·.globalId.same globalId)
  numbered.or (if globalId.truthy then file.positionOf? globalId else none)

end IfcFile

/-- The values of a set that differ from those in the file, as they are written. -/
def changedValues (current : Option (List (String × Value))) (values : OrderedMap Value) :
    OrderedMap Value :=
  (values.filter fun name v => name != setNumber &&
    match current with
    | none => true
    | some entries => !((entries.lookup name).getD .null).same v).map writable

/-- The entries of a set among those of a product, if the product has the set. -/
def currentSet (psets : OrderedMap Value) (set : String) :
    Except Fault (Option (List (String × Value))) :=
  match psets.find? set with
  | none | some .null => .ok none
  | some (.map entries) => .ok (some entries)
  | some v => .error (.foreign "AttributeError" s!"'{v.kindName}' object has no attribute 'get'")

/-- The entries of a value that is a set. -/
def setEntries : Value → List (String × Value)
  | .map entries => entries
  | _ => []

namespace Product

/-- The product with a new set that has nothing but a number. -/
def addSet (p : Product) (set : String) (number : Int) : Product :=
  { p with psets := p.psets.insert set (.map [(setNumber, .int number)]) }

/-- The product with values written into a set. -/
def writeSet (p : Product) (set : String) (values : OrderedMap Value) : Product :=
  let entries := ((p.psets.find? set).map setEntries).getD []
  { p with psets := p.psets.insert set (.map (OrderedMap.merge (.ofList entries) values).entries) }

/-- The name of the first set with a number. -/
def setNumbered? (p : Product) (number : Value) : Option String :=
  (p.psets.entries.find? fun (_, set) =>
    ((setEntries set).lookup setNumber).elim false (·.same number)).map Prod.fst

/-- The number of the product and those of its sets. -/
def numbers (p : Product) : List Int :=
  p.id :: p.psets.values.filterMap fun set =>
    ((setEntries set).lookup setNumber).bind Value.asInt?

end Product

namespace IfcFile

/-- The place of the first set with a number: the position of its product, and its name. -/
def setNumbered? (file : IfcFile) (number : Value) : Option (Nat × String) :=
  file.products.zipIdx.findSome? fun (p, i) => (p.setNumbered? number).map (i, ·)

/-- A number that nothing in the file has. -/
def freshNumber (file : IfcFile) : Int :=
  (file.products.flatMap Product.numbers).foldl max 0 + 1

/-- Writes values into a set of the product at a position. -/
def editSet (file : IfcFile) (i : Nat) (set : String) (values : OrderedMap Value) :
    List Edit × IfcFile :=
  match file.products[i]? with
  | none => ([], file)
  | some p =>
      ([.editSet p.id set values],
        { file with products := file.products.set i (p.writeSet set values) })

/-- Gives the product at a position a set of its own with some values. -/
def addSet (file : IfcFile) (i : Nat) (set : String) (values : OrderedMap Value) :
    List Edit × IfcFile :=
  match file.products[i]? with
  | none => ([], file)
  | some p =>
      let added := { file with products := file.products.set i (p.addSet set file.freshNumber) }
      let (edits, file) := added.editSet i set values
      (.addSet p.id set :: edits, file)

/-- Writes one set of an element that stands for the product at a position; `before` are the sets of
the product when the element's turn came. -/
def applySet (file : IfcFile) (i : Nat) (before : OrderedMap Value) (set : String)
    (values : OrderedMap Value) : Except Fault (List Edit × IfcFile) := do
  if (values.erase setNumber).isEmpty then return ([], file)
  let current ← currentSet before set
  let changed := changedValues current values
  if changed.isEmpty then return ([], file)
  match current with
  | none => return file.addSet i set changed
  | some entries =>
      match entries.lookup setNumber with
      | none => throw (.missingKey setNumber)
      | some number =>
          let (i, set) := (file.setNumbered? number).getD (i, set)
          return file.editSet i set changed

/-- Writes sets one after the other. -/
def applySets (file : IfcFile) (i : Nat) (before : OrderedMap Value) :
    List (String × OrderedMap Value) → Except Fault (List Edit × IfcFile)
  | [] => .ok ([], file)
  | (set, values) :: rest => do
      let (edits, file) ← file.applySet i before set values
      let (more, file) ← file.applySets i before rest
      return (edits ++ more, file)

/-- Writes the property sets of an element. -/
def applyElement (file : IfcFile) (e : Element) : Except Fault (List Edit × IfcFile) :=
  match file.findProduct? e with
  | none => .ok ([], file)
  | some i =>
      match file.products[i]? with
      | none => .ok ([], file)
      | some p => file.applySets i p.psets e.psets.entries

/-- Writes the property sets of elements, one element after the other. -/
def applyElements (file : IfcFile) : List Element → Except Fault (List Edit × IfcFile)
  | [] => .ok ([], file)
  | e :: rest => do
      let (edits, file) ← file.applyElement e
      let (more, file) ← file.applyElements rest
      return (edits ++ more, file)

end IfcFile

end BuildingWorkflow
