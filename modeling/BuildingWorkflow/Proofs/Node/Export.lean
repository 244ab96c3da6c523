import BuildingWorkflow.Node.Export
import BuildingWorkflow.Proofs.Node.Property
import BuildingWorkflow.Proofs.Text.Csv
import BuildingWorkflow.Proofs.Text.Names
import BuildingWorkflow.Proofs.Value.Json

/-!
Exported tables are read back.

A reader of comma-separated records and a reader of JSON get out of the text of an export what the
look-ups of the columns found in the elements, whatever characters the names and the values hold.
-/
namespace BuildingWorkflow

/-! ## Comma-separated records -/

/-- What a comma-separated table shows of a look-up: null as little as nothing. -/
def shownField : Option Found → String
  | none => ""
  | some ⟨.null, _⟩ => ""
  | some ⟨v, _⟩ => v.display

theorem fieldOf_cellValue (e : Element) (column : String) :
    fieldOf (cellValue e column) = shownField (e.resolvePath? column) := by
  unfold cellValue
  cases e.resolvePath? column with
  | none => rfl
  | some found =>
      obtain ⟨v, set⟩ := found
      cases v <;> rfl

theorem read?_csvTable {columns : List String} (named : columns ≠ []) (elements : List Element) :
    Csv.read? (csvTable columns elements) =
      some (columns :: elements.map fun e => columns.map fun column =>
        shownField (e.resolvePath? column)) := by
  have filled : ∀ fields ∈ columns :: elements.map fun e => columns.map fun column =>
      fieldOf (cellValue e column), fields ≠ [] := by
    simp [named]
  rw [csvTable, Csv.read?_table filled]
  simp only [fieldOf_cellValue]

/-! ## JSON -/

/-- The value that a look-up has found, as it can be read back; null if it found none. -/
def shownValue : Option Found → Value
  | none => .null
  | some found => found.value.plain

theorem plain_cellValue (e : Element) (column : String) :
    (cellValue e column).plain = shownValue (e.resolvePath? column) := by
  unfold cellValue
  cases e.resolvePath? column <;> rfl

theorem setEntry_of_lookup {α : Type} {name : String} {value : α} {entries : List (String × α)}
    (h : entries.lookup name = some value) : setEntry name value entries = entries := by
  induction entries with
  | nil => contradiction
  | cons entry rest ih =>
      obtain ⟨key, current⟩ := entry
      rw [lookup_cons_ite] at h
      by_cases here : name = key
      · rw [if_pos here] at h
        cases h
        rw [setEntry, if_pos here.symm, here]
      · rw [if_neg here] at h
        rw [setEntry, if_neg (Ne.symm here), ih h]

/-- Values that depend on their names alone are written once for each name. -/
theorem entries_ofList_map {α : Type} (f : String → α) (names : List String) :
    (OrderedMap.ofList (names.map fun name => (name, f name))).entries =
      names.eraseDups.map fun name => (name, f name) := by
  induction names using List.reverseRecOn with
  | nil => rfl
  | append_singleton names name ih =>
      have written : OrderedMap.ofList ((names ++ [name]).map fun name => (name, f name)) =
          (OrderedMap.ofList (names.map fun name => (name, f name))).insert name (f name) := by
        rw [OrderedMap.ofList, List.map_append, List.foldl_append]
        rfl
      rw [written]
      generalize OrderedMap.ofList (names.map fun name => (name, f name)) = m at ih
      have listed : name ∈ m.keys ↔ name ∈ names := by simp [OrderedMap.keys, ih]
      by_cases member : name ∈ names
      · have found : m.find? name = some (f name) := by
          rw [← OrderedMap.mem_entries_iff, ih]
          simpa using member
        refine (setEntry_of_lookup found).trans ?_
        rw [ih, eraseDups_append_singleton, if_pos member]
      · refine (setEntry_of_not_mem name (f name) (mt listed.mp member)).trans ?_
        rw [ih, eraseDups_append_singleton, if_neg member, List.map_append]
        rfl

theorem read?_jsonTable (columns : List String) (elements : List Element) :
    Json.read? (jsonTable columns elements) =
      some (.list (elements.map fun e => .map (columns.eraseDups.map fun column =>
        (column, shownValue (e.resolvePath? column))))) := by
  rw [jsonTable, Json.read?_json]
  simp only [Value.plain, Value.plainItems_eq, List.map_map, Function.comp_def, rowValue,
    Value.plainEntries_eq, entries_ofList_map, plain_cellValue]

/-! ## Export nodes -/

namespace ExportOptions

/-- A node exports these columns of these elements. -/
def Exports (options : ExportOptions) (inputs : Inputs) (columns : List String)
    (elements : List Element) : Prop :=
  ∃ source, inputs.main = .ok source ∧ source.elements = elements ∧
    tableColumns options.columns elements = columns

/-- A wall whose remark has quotes, a line feed and a comma in it, and whose layers are nested. -/
def remarkedWall : Element := { PropertyOptions.measuredWall with
  properties := .ofList [("Remark", .text "a \"b\",\nc"), ("Note", .null),
    ("Layers", .list [.map [("U", .float (.nan "0"))], .int (-2)])] }

def remarkExport (format : ExportFormat) (properties : String) : ExportOptions :=
  ⟨format, "walls", properties⟩

end ExportOptions

end BuildingWorkflow
