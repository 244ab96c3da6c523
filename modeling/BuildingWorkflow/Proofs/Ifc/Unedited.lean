import BuildingWorkflow.Proofs.Ifc.Editing
import BuildingWorkflow.Proofs.Ifc.Loading

/-!
Elements that nobody edited, written back.

What an element has of a set is compared with the set in the file as it stands there. The numbers of
nested sets are missing on one side only, so a property with such a number counts as changed though
nothing happened to it.
-/
namespace BuildingWorkflow

/-- The sets of a product and everything in them have each name once. -/
def Product.Distinct (p : Product) : Prop :=
  ∀ set v, p.psets.find? set = some v → v.Everywhere Value.Distinct

variable {file : IfcFile} {i : Nat} {p : Product} {e : Element}

/-- The sets of an element that comes from a product are the mappings among those of the product. -/
theorem Product.mem_psets_iff (loaded : p.toElement = .ok e) (set : String)
    (values : OrderedMap Value) : (set, values) ∈ e.psets.entries ↔
      ∃ entries, p.psets.find? set = some (.map entries) ∧
        values = .ofList (entriesWithoutNumbers entries) := by
  rw [OrderedMap.mem_entries_iff, psets_of_toElement loaded, find?_plainSets]
  cases p.psets.find? set with
  | none => simp
  | some v => cases v <;> simp [plainSet?, eq_comm]

/-- A property as the element has it differs from the one in the file unless its value has no number
and no NaN in it. -/
theorem differs_withoutNumbers_iff {entries : List (String × Value)} {name : String} {v : Value}
    (held : entries.lookup name = some v) (distinct : v.Everywhere Value.Distinct) :
    differs (some entries) name (withoutNumbers v) = false ↔
      (name ≠ setNumber → v.Everywhere Value.Plain) := by
  rw [← v.same_withoutNumbers_iff distinct]
  by_cases number : name = setNumber
  · simp [differs, number]
  · simp [differs, number, held]

theorem IfcFile.applySet_unedited_iff (present : file.products[i]? = some p) {set : String}
    {entries : List (String × Value)} (found : p.psets.find? set = some (.map entries))
    (distinct : (Value.map entries).Everywhere Value.Distinct) :
    file.applySet i p.psets set (.ofList (entriesWithoutNumbers entries)) = .ok ([], file) ↔
      ∀ entry ∈ entries, entry.1 ≠ setNumber → entry.2.Everywhere Value.Plain := by
  rw [Value.everywhere_map] at distinct
  have known : currentSet p.psets set = .ok (some entries) := by rw [currentSet, found]
  rw [applySet_unchanged_iff present known]
  simp only [OrderedMap.find?_ofList (nodup_entriesWithoutNumbers distinct.1),
    lookup_entriesWithoutNumbers]
  have held (entry : String × Value) :
      entry ∈ entries ↔ entries.lookup entry.1 = some entry.2 :=
    (OrderedMap.mk entries distinct.1).mem_entries_iff entry.1 entry.2
  constructor
  · intro same entry member named
    have unchanged := same entry.1 (withoutNumbers entry.2)
      (by simp [named, (held entry).mp member])
    exact (differs_withoutNumbers_iff ((held entry).mp member)
      (distinct.2 entry member)).mp unchanged named
  · intro plain name v loaded
    split at loaded
    · cases loaded
    · obtain ⟨w, here, rfl⟩ := Option.map_eq_some_iff.mp loaded
      have member : (name, w) ∈ entries := (held (name, w)).mpr here
      exact (differs_withoutNumbers_iff here (distinct.2 _ member)).mpr (plain _ member)

/-- A wall with a list of layers, and one with a property that is made of others and so has a number
of its own. -/
def layeredWall : Product := .wallWith "Layers" (.list [.text "brick", .text "plaster"])
def usedWall : Product := .wallWith "Usage" (.map [(setNumber, .int 12), ("Type", .text "load")])

end BuildingWorkflow
