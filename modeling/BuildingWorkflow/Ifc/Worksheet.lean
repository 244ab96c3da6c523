import BuildingWorkflow.Ifc.Editing

/-!
Worksheets of elements: a table with one row for each element, and a list of every value in the
property and quantity sets.

A sheet is written cell by cell, at rows and columns that are counted along. Texts that are too long
for a cell are cut.
-/
namespace BuildingWorkflow

/-- Rows of cells; an empty cell is null. -/
abbrev Sheet := List (List Value)

structure Workbook where
  elements : Sheet
  values : Sheet

/-- Puts the item at a position through a function; a list that is too short is filled up first. -/
def alterAt {α : Type} (blank : α) (f : α → α) : Nat → List α → List α
  | 0, [] => [f blank]
  | 0, a :: rest => f a :: rest
  | i + 1, [] => blank :: alterAt blank f i []
  | i + 1, a :: rest => a :: alterAt blank f i rest

namespace Sheet

/-- What a cell holds. Rows and columns are counted from one. -/
def cell (sheet : Sheet) (row column : Nat) : Value :=
  match row, column with
  | i + 1, j + 1 => ((sheet[i]?.getD [])[j]?).getD .null
  | _, _ => .null

/-- Writes one cell. -/
def put (sheet : Sheet) (row column : Nat) (v : Value) : Sheet :=
  match row, column with
  | i + 1, j + 1 => alterAt [] (alterAt .null (fun _ => v) j) i sheet
  | _, _ => sheet

/-- Writes values side by side, the first of them in a given column. -/
def putRow (sheet : Sheet) (row column : Nat) : List Value → Sheet
  | [] => sheet
  | v :: rest => (sheet.put row column v).putRow row (column + 1) rest

end Sheet

/-! ## Elements -/

/-- The names of the properties of some elements, in order of first appearance. -/
def propertyNames (elements : List Element) : List String :=
  (elements.flatMap fun e => e.properties.keys).eraseDups

/-- Writes an element into a row: its identifier, its class and its value for each property. -/
def putElement (names : List String) (sheet : Sheet) (row : Nat) (e : Element) : Sheet :=
  ((sheet.put row 1 (.text e.id)).put row 2 (.text e.type)).putRow row 3
    (names.map fun name => writable ((e.properties.find? name).getD .null))

/-- Writes elements into rows, the first of them into a given row. -/
def putElements (names : List String) (sheet : Sheet) (row : Nat) : List Element → Sheet
  | [] => sheet
  | e :: rest => putElements names (putElement names sheet row e) (row + 1) rest

def elementSheet (elements : List Element) : Sheet :=
  let names := propertyNames elements
  putElements names (Sheet.putRow [] 1 1 ((["Id", "Type"] ++ names).map .text)) 2 elements

/-! ## Values -/

/-- A sheet that is being written, with the row that comes next. -/
structure SheetCursor where
  sheet : Sheet
  row : Nat

namespace SheetCursor

def putEntry (e : Element) (set : String) (cursor : SheetCursor) (entry : String × Value) :
    SheetCursor where
  sheet := cursor.sheet.putRow cursor.row 1
    [.text e.id, .text set, .text entry.1, writable entry.2]
  row := cursor.row + 1

def putSet (e : Element) (cursor : SheetCursor) (set : String × OrderedMap Value) : SheetCursor :=
  set.2.entries.foldl (putEntry e set.1) cursor

def putSets (e : Element) (cursor : SheetCursor) (sets : PropertySets) : SheetCursor :=
  sets.entries.foldl (putSet e) cursor

/-- The property sets of an element, and then its quantity sets. -/
def putValues (cursor : SheetCursor) (e : Element) : SheetCursor :=
  [e.psets, e.qtos].foldl (putSets e) cursor

end SheetCursor

def valueSheet (elements : List Element) : Sheet :=
  let heads := ["Id", "Set", "Property", "Value"].map .text
  (elements.foldl SheetCursor.putValues ⟨Sheet.putRow [] 1 1 heads, 2⟩).sheet

/-! ## Cells -/

/-- How many characters a cell holds. -/
def cellCapacity : Nat := 32767

/-- What a cell holds of a value: all of it, but only the beginning of a long text. -/
def cellContent : Value → Value
  | .text s => .text (String.ofList (s.toList.take cellCapacity))
  | v => v

/-- The control characters that no cell can hold. -/
def isIllegal (c : Char) : Bool :=
  c.toNat < 0x20 && c != '\t' && c != '\n' && c != '\r'

/-- A text with a character that no cell can hold. -/
def illegalText? : Value → Option String
  | .text s => if s.toList.any isIllegal then some s else none
  | _ => none

def fitted (sheet : Sheet) : Sheet := sheet.map (·.map cellContent)

/-- The workbook of some elements; the first cell that cannot hold its text is a fault. -/
def Workbook.ofElements (elements : List Element) : Except Fault Workbook :=
  let book : Workbook := ⟨fitted (elementSheet elements), fitted (valueSheet elements)⟩
  match (book.elements ++ book.values).flatten.findSome? illegalText? with
  | some s => .error (.illegalCell s)
  | none => .ok book

end BuildingWorkflow
