import BuildingWorkflow.Ifc.Worksheet
import BuildingWorkflow.Proofs.Text.Names

/-!
Worksheets are complete.

Cell by cell a sheet is a map from places to values: what is written into one cell changes no other.
As the rows are counted along, each row is written below all rows that are there, so none is written
over and none is left out. The sheet of elements is then the table of their properties, and the
other one lists all values in their sets.
-/
namespace BuildingWorkflow

theorem getD_alterAt {α : Type} (blank : α) (f : α → α) (i j : Nat) (items : List α) :
    (alterAt blank f i items)[j]?.getD blank =
      if j = i then f (items[i]?.getD blank) else items[j]?.getD blank := by
  induction i generalizing items j with
  | zero => cases items <;> cases j <;> simp [alterAt]
  | succ i ih => cases items <;> cases j <;> simp [alterAt, ih]

namespace Sheet

variable {sheet : Sheet} {table : List (List Value)}

/-- Writing a cell changes this cell alone. -/
theorem cell_put (sheet : Sheet) (i j row column : Nat) (v : Value) :
    (sheet.put (i + 1) (j + 1) v).cell row column =
      if row = i + 1 ∧ column = j + 1 then v else sheet.cell row column := by
  match row, column with
  | 0, _ => simp [cell]
  | _ + 1, 0 => simp [cell]
  | r + 1, c + 1 =>
      simp only [cell, put, getD_alterAt, Nat.add_right_cancel_iff]
      by_cases here : r = i
      · simp only [here, if_true, getD_alterAt, true_and]
      · simp only [here, if_false, false_and]

/-- Writing side by side changes the cells of one row from a column on. -/
theorem cell_putRow (sheet : Sheet) (i j row column : Nat) (values : List Value) :
    (sheet.putRow (i + 1) (j + 1) values).cell row column =
      if row = i + 1 ∧ j < column then
        (values[column - (j + 1)]?).getD (sheet.cell row column)
      else sheet.cell row column := by
  induction values generalizing sheet j with
  | nil => simp [putRow]
  | cons v rest ih =>
      rw [putRow, ih, cell_put]
      by_cases here : row = i + 1
      · -- The cell stands before the first one that is written, is that one, or stands behind it.
        obtain less | rfl | more := Nat.lt_trichotomy column (j + 1)
        · simp [here, show ¬ j + 1 < column by omega, show ¬ column = j + 1 by omega,
            show ¬ j < column by omega]
        · simp [here]
        · have next : column - (j + 1) = column - (j + 1 + 1) + 1 := by omega
          simp [here, more, show ¬ column = j + 1 by omega, show j < column by omega, next]
      · simp [here]

/-- The cells hold what a table says, and beyond the table nothing. -/
def Shows (sheet : Sheet) (table : List (List Value)) : Prop :=
  ∀ row column, sheet.cell (row + 1) (column + 1) = ((table[row]?.getD [])[column]?).getD .null

theorem shows_nil : Shows [] [] := fun _ _ => rfl

/-- A row that is written below all others is added to the table. -/
theorem Shows.putRow (shows : sheet.Shows table) (values : List Value) :
    (sheet.putRow (table.length + 1) 1 values).Shows (table ++ [values]) := by
  intro row column
  rw [cell_putRow, shows]
  -- The rows above are kept, and those below are as empty as they were.
  obtain less | rfl | more := Nat.lt_trichotomy row table.length
  · simp [less.ne, List.getElem?_append_left less]
  · simp
  · have beyond : (table ++ [values]).length ≤ row := by
      rw [List.length_append]
      exact more
    simp [more.ne', more.le, List.getElem?_eq_none beyond]

end Sheet

/-! ## Elements -/

def elementRow (names : List String) (e : Element) : List Value :=
  .text e.id :: .text e.type ::
    names.map fun name => writable ((e.properties.find? name).getD .null)

theorem putElement_eq (names : List String) (sheet : Sheet) (row : Nat) (e : Element) :
    putElement names sheet row e = sheet.putRow row 1 (elementRow names e) := rfl

theorem shows_putElements {sheet : Sheet} {table : List (List Value)} (shows : sheet.Shows table)
    (names : List String) (elements : List Element) :
    (putElements names sheet (table.length + 1) elements).Shows
      (table ++ elements.map (elementRow names)) := by
  induction elements generalizing sheet table with
  | nil => rwa [List.map_nil, List.append_nil]
  | cons e rest ih =>
      have next := ih (shows.putRow (elementRow names e))
      rw [List.length_append, List.append_assoc] at next
      rw [putElements, putElement_eq]
      exact next

def elementHeads (names : List String) : List Value := (["Id", "Type"] ++ names).map .text

theorem shows_elementSheet (elements : List Element) :
    (elementSheet elements).Shows (elementHeads (propertyNames elements) ::
      elements.map (elementRow (propertyNames elements))) :=
  shows_putElements (Sheet.shows_nil.putRow _) _ elements

/-! ## Values -/

namespace SheetCursor

/-- The table is written, and the row below it comes next. -/
structure Wrote (cursor : SheetCursor) (table : List (List Value)) : Prop where
  shows : cursor.sheet.Shows table
  next : cursor.row = table.length + 1

/-- What each step adds to the table, all steps together do. -/
theorem wrote_foldl {α : Type} {step : SheetCursor → α → SheetCursor} {rows : α → List (List Value)}
    (each : ∀ {cursor table} (a : α), cursor.Wrote table → (step cursor a).Wrote (table ++ rows a))
    {cursor : SheetCursor} {table : List (List Value)} (items : List α)
    (wrote : cursor.Wrote table) :
    (items.foldl step cursor).Wrote (table ++ items.flatMap rows) := by
  induction items generalizing cursor table with
  | nil => rwa [List.flatMap_nil, List.append_nil]
  | cons a rest ih =>
      have next := ih (each a wrote)
      rwa [List.append_assoc] at next

end SheetCursor

structure SetValue where
  element : Element
  set : String
  name : String
  value : Value

namespace SetValue

def row (item : SetValue) : List Value :=
  [.text item.element.id, .text item.set, .text item.name, writable item.value]

/-- The values in some sets of an element. -/
def inSets (e : Element) (sets : PropertySets) : List SetValue :=
  sets.entries.flatMap fun (set, values) => values.entries.map fun (name, v) => ⟨e, set, name, v⟩

/-- The values in all sets of some elements: element by element, and first those in its property
sets. -/
def all (elements : List Element) : List SetValue :=
  elements.flatMap fun e => inSets e e.psets ++ inSets e e.qtos

end SetValue

namespace SheetCursor

variable {cursor : SheetCursor} {table : List (List Value)} (wrote : cursor.Wrote table)
  (e : Element)

include wrote

theorem Wrote.putEntry (set : String) (entry : String × Value) :
    (cursor.putEntry e set entry).Wrote
      (table ++ [(SetValue.mk e set entry.1 entry.2).row]) := by
  refine ⟨?_, ?_⟩
  · have shows := wrote.shows.putRow (SetValue.mk e set entry.1 entry.2).row
    rwa [← wrote.next] at shows
  · rw [SheetCursor.putEntry, wrote.next, List.length_append]
    rfl

theorem Wrote.putSet (set : String × OrderedMap Value) :
    (cursor.putSet e set).Wrote
      (table ++ (set.2.entries.map fun (name, v) => SetValue.mk e set.1 name v).map SetValue.row) := by
  rw [List.map_map, List.map_eq_flatMap]
  exact wrote_foldl (fun entry wrote => wrote.putEntry e set.1 entry) set.2.entries wrote

theorem Wrote.putSets (sets : PropertySets) :
    (cursor.putSets e sets).Wrote (table ++ (SetValue.inSets e sets).map SetValue.row) := by
  rw [SetValue.inSets, List.map_flatMap]
  exact wrote_foldl (fun set wrote => wrote.putSet e set) sets.entries wrote

theorem Wrote.putValues :
    (cursor.putValues e).Wrote (table ++
      (SetValue.inSets e e.psets ++ SetValue.inSets e e.qtos).map SetValue.row) := by
  have next := (wrote.putSets e e.psets).putSets e e.qtos
  rwa [List.append_assoc, ← List.map_append] at next

end SheetCursor

def valueHeads : List Value := ["Id", "Set", "Property", "Value"].map .text

theorem shows_valueSheet (elements : List Element) :
    (valueSheet elements).Shows (valueHeads :: (SetValue.all elements).map SetValue.row) := by
  rw [SetValue.all, List.map_flatMap]
  have heads : (SheetCursor.mk (Sheet.putRow [] 1 1 valueHeads) 2).Wrote [valueHeads] :=
    ⟨Sheet.shows_nil.putRow valueHeads, rfl⟩
  exact (SheetCursor.wrote_foldl (fun e wrote => wrote.putValues e) elements heads).shows

/-! ## Cells -/

theorem cell_fitted (sheet : Sheet) (row column : Nat) :
    (fitted sheet).cell row column = cellContent (sheet.cell row column) := by
  match row, column with
  | 0, _ => rfl
  | _ + 1, 0 => rfl
  | i + 1, j + 1 =>
      simp only [Sheet.cell, fitted, List.getElem?_map]
      cases sheet[i]? with
      | none => rfl
      | some cells =>
          simp only [Option.map_some, Option.getD_some, List.getElem?_map]
          cases cells[j]? <;> rfl

/-- A cell holds all of a value, unless it is a text that is too long. -/
theorem cellContent_eq_self (v : Value) :
    cellContent v = v ∨ ∃ s, v = .text s ∧ cellCapacity < s.toList.length := by
  cases v with
  | text s =>
      obtain long | short := Nat.lt_or_ge cellCapacity s.toList.length
      · exact .inr ⟨s, rfl, long⟩
      · left
        rw [cellContent, List.take_of_length_le short, String.ofList_toList]
  | _ => exact .inl rfl

theorem exists_cell_of_mem {sheet : Sheet} {v : Value} (member : v ∈ sheet.flatten) :
    ∃ row column, sheet.cell row column = v := by
  obtain ⟨cells, row, place⟩ := List.mem_flatten.mp member
  obtain ⟨i, here⟩ := List.mem_iff_getElem?.mp row
  obtain ⟨j, there⟩ := List.mem_iff_getElem?.mp place
  exact ⟨i + 1, j + 1, by simp [Sheet.cell, here, there]⟩

theorem illegalText?_eq_some_iff {v : Value} {s : String} :
    illegalText? v = some s ↔ v = .text s ∧ s.toList.any isIllegal := by
  unfold illegalText?
  split
  · next t =>
    rw [Option.ite_none_right_eq_some, Option.some.injEq, Value.text.injEq, and_comm]
    exact and_congr_right fun same => same ▸ Iff.rfl
  · next other => exact ⟨nofun, fun text => absurd text.1 (other s)⟩

/-- A fault tells of a text that a cell of one of the sheets should hold. -/
theorem Workbook.ofElements_eq (elements : List Element) :
    ofElements elements = .ok ⟨fitted (elementSheet elements), fitted (valueSheet elements)⟩ ∨
    ∃ sheet ∈ [elementSheet elements, valueSheet elements], ∃ row column s,
      cellContent (sheet.cell row column) = .text s ∧ s.toList.any isIllegal ∧
        ofElements elements = .error (.illegalCell s) := by
  rw [ofElements]
  split
  · next s found =>
    obtain ⟨v, member, refused⟩ := List.exists_of_findSome?_eq_some found
    obtain ⟨rfl, illegal⟩ := illegalText?_eq_some_iff.mp refused
    have inCell {sheet : Sheet} (member : Value.text s ∈ (fitted sheet).flatten) :
        ∃ row column, cellContent (sheet.cell row column) = .text s := by
      obtain ⟨row, column, same⟩ := exists_cell_of_mem member
      exact ⟨row, column, (cell_fitted sheet row column).symm.trans same⟩
    rw [List.flatten_append, List.mem_append] at member
    obtain first | second := member
    · obtain ⟨row, column, same⟩ := inCell first
      exact .inr ⟨_, .head _, row, column, s, same, illegal, rfl⟩
    · obtain ⟨row, column, same⟩ := inCell second
      exact .inr ⟨_, .tail _ (.head _), row, column, s, same, illegal, rfl⟩
  · exact .inl rfl

/-! ## Complete sheets -/

namespace Sheet

variable {sheet : Sheet}

/-- A table with a row for each element: its identifier and class, and under each name its own value
or nothing. -/
structure Tabulates (sheet : Sheet) (names : List String) (elements : List Element) : Prop where
  head : sheet.cell 1 1 = .text "Id" ∧ sheet.cell 1 2 = .text "Type" ∧
    ∀ j (h : j < names.length), sheet.cell 1 (j + 3) = .text names[j]
  row : ∀ i (h : i < elements.length),
    sheet.cell (i + 2) 1 = .text elements[i].id ∧ sheet.cell (i + 2) 2 = .text elements[i].type ∧
    ∀ j (h' : j < names.length), sheet.cell (i + 2) (j + 3) =
      match elements[i].properties.find? names[j] with
      | some v => writable v
      | none => .null
  rest : ∀ row column, elements.length + 1 < row ∨ names.length + 2 < column →
    sheet.cell row column = .null

/-- A list with a row for each value: the element, the set, the name and the value itself. -/
structure Lists (sheet : Sheet) (items : List SetValue) : Prop where
  head : sheet.cell 1 1 = .text "Id" ∧ sheet.cell 1 2 = .text "Set" ∧
    sheet.cell 1 3 = .text "Property" ∧ sheet.cell 1 4 = .text "Value"
  row : ∀ k (h : k < items.length),
    sheet.cell (k + 2) 1 = .text items[k].element.id ∧
    sheet.cell (k + 2) 2 = .text items[k].set ∧
    sheet.cell (k + 2) 3 = .text items[k].name ∧
    sheet.cell (k + 2) 4 = writable items[k].value
  rest : ∀ row column, items.length + 1 < row ∨ 4 < column → sheet.cell row column = .null

section Table

variable {table : List (List Value)} (shows : sheet.Shows table)

include shows

theorem Shows.cell_eq (i : Nat) (cells : List Value) (row : table[i]? = some cells) (j : Nat) :
    sheet.cell (i + 1) (j + 1) = (cells[j]?).getD .null := by
  rw [shows, row, Option.getD_some]

/-- Beyond the rows of a table and the cells of each row there is nothing. -/
theorem Shows.cell_eq_null (width : Nat) (narrow : ∀ cells ∈ table, cells.length ≤ width)
    {row column : Nat} (beyond : table.length < row ∨ width < column) :
    sheet.cell row column = .null := by
  match row, column with
  | 0, _ => rfl
  | _ + 1, 0 => rfl
  | i + 1, j + 1 =>
      cases here : table[i]? with
      | none => rw [shows, here, Option.getD_none, List.getElem?_nil, Option.getD_none]
      | some cells =>
          have short := narrow cells (List.mem_of_getElem? here)
          obtain ⟨inside, -⟩ := List.getElem?_eq_some_iff.mp here
          rw [shows.cell_eq i cells here, List.getElem?_eq_none (by omega), Option.getD_none]

end Table

theorem tabulates_elementSheet (elements : List Element) :
    (elementSheet elements).Tabulates (propertyNames elements) elements := by
  have shows := shows_elementSheet elements
  have row {i : Nat} (h : i < elements.length) := shows.cell_eq (i + 1)
    (elementRow (propertyNames elements) elements[i]) (by simp [h])
  refine ⟨⟨shows 0 0, shows 0 1, fun j h => ?_⟩,
    fun i h => ⟨row h 0, row h 1, fun j h' => ?_⟩, fun row column beyond => ?_⟩
  · rw [shows.cell_eq 0 _ rfl]
    simp [elementHeads, h]
  · rw [row h]
    simp only [elementRow, List.getElem?_cons_succ, List.getElem?_map,
      List.getElem?_eq_getElem h', Option.map_some, Option.getD_some]
    cases elements[i].properties.find? (propertyNames elements)[j] <;> rfl
  · refine shows.cell_eq_null ((propertyNames elements).length + 2) (fun cells member => ?_)
      (by simpa using beyond)
    obtain rfl | member := List.mem_cons.mp member
    · simp [elementHeads]
    · obtain ⟨e, -, rfl⟩ := List.mem_map.mp member
      simp [elementRow]

theorem lists_valueSheet (elements : List Element) :
    (valueSheet elements).Lists (SetValue.all elements) := by
  have shows := shows_valueSheet elements
  have row {k : Nat} (h : k < (SetValue.all elements).length) := shows.cell_eq (k + 1)
    (SetValue.all elements)[k].row (by simp [h])
  refine ⟨⟨shows 0 0, shows 0 1, shows 0 2, shows 0 3⟩,
    fun k h => ⟨row h 0, row h 1, row h 2, row h 3⟩, fun row column beyond => ?_⟩
  refine shows.cell_eq_null 4 (fun cells member => ?_) (by simpa using beyond)
  obtain rfl | member := List.mem_cons.mp member
  · exact le_rfl
  · obtain ⟨item, -, rfl⟩ := List.mem_map.mp member
    exact le_rfl

end Sheet

theorem mem_propertyNames {elements : List Element} {name : String} :
    name ∈ propertyNames elements ↔ ∃ e ∈ elements, name ∈ e.properties.keys := by
  rw [propertyNames, List.mem_eraseDups, List.mem_flatMap]

/-- The workbook of any elements is complete. The columns of the first sheet are all property names,
each once and in the order in which they first appear, and each element has a row there; each value
in a set has a row in the second sheet, in order. The cells hold what is written into them, except
for the end of a text that is too long, and the workbook is refused only for a text that no cell can
hold. -/
theorem Workbook.ofElements_complete (elements : List Element) :
    (elementSheet elements).Tabulates (propertyNames elements) elements ∧
    (valueSheet elements).Lists (SetValue.all elements) ∧
    (propertyNames elements).Nodup ∧
    (∀ name, name ∈ propertyNames elements ↔ ∃ e ∈ elements, name ∈ e.properties.keys) ∧
    ((propertyNames elements).Pairwise fun a b =>
      (elements.flatMap (·.properties.keys)).idxOf a <
        (elements.flatMap (·.properties.keys)).idxOf b) ∧
    (∀ v, cellContent v = v ∨ ∃ s, v = .text s ∧ cellCapacity < s.toList.length) ∧
    match ofElements elements with
    | .ok book => ∀ row column,
        book.elements.cell row column = cellContent ((elementSheet elements).cell row column) ∧
        book.values.cell row column = cellContent ((valueSheet elements).cell row column)
    | .error fault => ∃ sheet ∈ [elementSheet elements, valueSheet elements],
        ∃ row column s, cellContent (sheet.cell row column) = .text s ∧ s.toList.any isIllegal ∧
          fault = .illegalCell s := by
  refine ⟨Sheet.tabulates_elementSheet elements, Sheet.lists_valueSheet elements,
    nodup_eraseDups _, fun _ => mem_propertyNames, pairwise_idxOf_eraseDups _,
    cellContent_eq_self, ?_⟩
  obtain taken | ⟨sheet, member, row, column, s, held, illegal, refused⟩ := ofElements_eq elements
  · rw [taken]
    exact fun row column => ⟨cell_fitted _ row column, cell_fitted _ row column⟩
  · rw [refused]
    exact ⟨sheet, member, row, column, s, held, illegal, rfl⟩

end BuildingWorkflow
