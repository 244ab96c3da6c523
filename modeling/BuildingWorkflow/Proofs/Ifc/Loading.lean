import BuildingWorkflow.Ifc.Loading
import BuildingWorkflow.Proofs.Element.Sets
import BuildingWorkflow.Proofs.Node.Valued
import BuildingWorkflow.Proofs.Value.Equality

/-!
What an element has of the property sets of its product.

The element has a set for every set of the product, and in it a property for every entry but the
number, with the numbers of nested sets taken out of its value.
-/
namespace BuildingWorkflow

/-! ## Values without numbers -/

theorem itemsWithoutNumbers_eq (items : List Value) :
    itemsWithoutNumbers items = items.map withoutNumbers := by
  induction items with
  | nil => rfl
  | cons v rest ih => rw [itemsWithoutNumbers, ih, List.map_cons]

theorem entriesWithoutNumbers_eq (entries : List (String × Value)) :
    entriesWithoutNumbers entries =
      (entries.filter fun entry => entry.1 != setNumber).map fun entry =>
        (entry.1, withoutNumbers entry.2) := by
  induction entries with
  | nil => rfl
  | cons entry rest ih =>
      obtain ⟨name, v⟩ := entry
      rw [entriesWithoutNumbers]
      split
      · simp [*]
      · simp [*]

theorem nodup_entriesWithoutNumbers {entries : List (String × Value)}
    (nodup : (entries.map Prod.fst).Nodup) :
    ((entriesWithoutNumbers entries).map Prod.fst).Nodup := by
  rw [entriesWithoutNumbers_eq, List.map_map]
  exact List.Sublist.nodup (List.filter_sublist.map Prod.fst) nodup

/-- All that the entry of another name loses are the numbers in its value. -/
theorem lookup_entriesWithoutNumbers (entries : List (String × Value)) (name : String) :
    (entriesWithoutNumbers entries).lookup name =
      if name = setNumber then none else (entries.lookup name).map withoutNumbers := by
  induction entries with
  | nil => simp [entriesWithoutNumbers]
  | cons entry rest ih =>
      obtain ⟨key, v⟩ := entry
      rw [entriesWithoutNumbers]
      by_cases number : key = setNumber
      · subst number
        simp only [if_true, ih, lookup_cons_ite]
        split <;> rfl
      · simp only [number, if_false, lookup_cons_ite, ih]
        by_cases here : name = key
        · simp [here, number]
        · simp [here]

/-- A mapping has as many entries without numbers as with them just when it has no number. -/
theorem length_entriesWithoutNumbers_iff (entries : List (String × Value)) :
    entries.length = (entriesWithoutNumbers entries).length ↔
      setNumber ∉ entries.map Prod.fst := by
  rw [entriesWithoutNumbers_eq, List.length_map, eq_comm, List.length_filter_eq_length_iff]
  simp only [bne_iff_ne, List.mem_map, not_exists, not_and]

namespace Value

/-- A mapping has no number, and a float is not NaN. -/
def Plain : Value → Prop
  | map entries => setNumber ∉ entries.map Prod.fst
  | float x => ∀ label, x ≠ .nan label
  | _ => True

theorem same_list_withoutNumbers (items : List Value) :
    (list items).same (withoutNumbers (list items)) ↔ ∀ v ∈ items, v.same (withoutNumbers v) := by
  simp only [same, withoutNumbers, sameBy, sameItemsBy_iff, itemsWithoutNumbers_eq,
    List.forall₂_map_right_iff, List.forall₂_same]

theorem same_map_withoutNumbers {entries : List (String × Value)}
    (nodup : (entries.map Prod.fst).Nodup) :
    (map entries).same (withoutNumbers (map entries)) ↔
      setNumber ∉ entries.map Prod.fst ∧
        ∀ entry ∈ entries, entry.2.same (withoutNumbers entry.2) := by
  simp only [same, withoutNumbers, sameBy, Bool.and_eq_true, beq_iff_eq,
    length_entriesWithoutNumbers_iff, sameEntriesBy_iff]
  refine and_congr_right fun free => forall₂_congr fun entry member => ?_
  have named : entry.1 ≠ setNumber := fun number =>
    free (number ▸ List.mem_map_of_mem member)
  have held : entries.lookup entry.1 = some entry.2 :=
    ((OrderedMap.mk entries nodup).mem_entries_iff entry.1 entry.2).mp member
  rw [lookup_entriesWithoutNumbers, if_neg named, held]
  simp

/-- A value equals itself without numbers just when there are none in it, and no NaN. -/
theorem same_withoutNumbers_iff (v : Value) (distinct : v.Everywhere Distinct) :
    v.same (withoutNumbers v) ↔ v.Everywhere Plain := by
  induction v using nested with
  | null => simp [same, withoutNumbers, sameBy, isNull, Plain]
  | bool b => simp [same, withoutNumbers, sameBy, sameWhole, asInt?, Plain]
  | int n => simp [same, withoutNumbers, sameBy, sameWhole, asInt?, Plain]
  | float x =>
      rw [everywhere_float, Plain, ← Binary64.same_self_iff]
      simp [same, withoutNumbers, sameBy]
  | text s => simp [same, withoutNumbers, sameBy, Plain]
  | list items ih =>
      rw [everywhere_list] at distinct
      rw [same_list_withoutNumbers, everywhere_list]
      simp only [Plain, true_and]
      exact forall₂_congr fun v member => ih v member (distinct.2 v member)
  | map entries ih =>
      rw [everywhere_map] at distinct
      rw [same_map_withoutNumbers distinct.1, everywhere_map]
      exact and_congr_right fun _ =>
        forall₂_congr fun entry member => ih entry member (distinct.2 entry member)

end Value

/-! ## Sets -/

/-- A set of a product as an element has it. -/
def plainSet? : Value → Option (OrderedMap Value)
  | .map entries => some (.ofList (entriesWithoutNumbers entries))
  | _ => none

/-- Entries whose values are passed through a partial function, some of them being left out. -/
theorem lookup_filterMap {α β : Type} (f : α → Option β) {entries : List (String × α)}
    (nodup : (entries.map Prod.fst).Nodup) (name : String) :
    (entries.filterMap fun entry => (f entry.2).map (entry.1, ·)).lookup name =
      (entries.lookup name).bind f := by
  induction entries with
  | nil => rfl
  | cons entry rest ih =>
      obtain ⟨fresh, nodup⟩ := List.nodup_cons.mp nodup
      have ih := ih nodup
      rw [List.filterMap_cons, lookup_cons_ite]
      by_cases here : name = entry.1
      · have absent : rest.lookup name = none :=
          ((OrderedMap.mk rest nodup).find?_eq_none_iff name).mpr (here ▸ fresh)
        rw [absent] at ih
        cases kept : f entry.2 with
        | none => rw [here] at ih; simp [here, kept, ih]
        | some value => simp [here, kept]
      · cases kept : f entry.2 with
        | none => simp [here, ih]
        | some value => simp [here, lookup_cons_ite, ih]

theorem names_filterMap {α β : Type} (f : α → Option β) (entries : List (String × α)) :
    ((entries.filterMap fun entry => (f entry.2).map (entry.1, ·)).map Prod.fst).Sublist
      (entries.map Prod.fst) := by
  induction entries with
  | nil => exact .slnil
  | cons entry rest ih =>
      rw [List.filterMap_cons]
      cases f entry.2 with
      | none => exact ih.cons _
      | some value => exact ih.cons_cons _

theorem find?_plainSets (sets : OrderedMap Value) (set : String) :
    (plainSets sets).find? set = (sets.find? set).bind plainSet? := by
  have shape : plainSets sets =
      .ofList (sets.entries.filterMap fun entry => (plainSet? entry.2).map (entry.1, ·)) := by
    unfold plainSets
    congr 2
    funext ⟨name, v⟩
    cases v <;> rfl
  rw [shape, OrderedMap.find?_ofList ((names_filterMap _ _).nodup sets.nodup),
    lookup_filterMap plainSet? sets.nodup, OrderedMap.find?]

namespace Product

variable {p : Product} {e : Element}

theorem psets_of_toElement (loaded : p.toElement = .ok e) : e.psets = plainSets p.psets := by
  obtain ⟨own, -, done⟩ := bind_eq_ok loaded
  cases done
  rfl

theorem valueIn?_of_toElement (loaded : p.toElement = .ok e) {set : String}
    {entries : List (String × Value)} (held : p.psets.find? set = some (.map entries))
    (nodup : (entries.map Prod.fst).Nodup) (name : String) : valueIn? e.psets set name =
      if name = setNumber then none else (entries.lookup name).map withoutNumbers := by
  rw [psets_of_toElement loaded, valueIn?, find?_plainSets, held, Option.bind_some, plainSet?,
    Option.bind_some, OrderedMap.find?_ofList (nodup_entriesWithoutNumbers nodup),
    lookup_entriesWithoutNumbers]

/-- A wall whose only property set has one property. -/
def wallWith (name : String) (v : Value) : Product where
  id := 1
  entity := .mk "IfcWall" [] [("GlobalId", .value (.text "g")), ("Name", .value (.text "W"))]
  psets := .ofList [("Pset_Wall", .map [(setNumber, .int 11), (name, v)])]
  qtos := .empty
  container := none
  material := none

theorem find?_wallWith {name set : String} {v w : Value}
    (found : (wallWith name v).psets.find? set = some w) :
    set = "Pset_Wall" ∧ w = .map [(setNumber, .int 11), (name, v)] := by
  have member := ((wallWith name v).psets.mem_entries_iff set w).mpr found
  cases member with
  | head => exact ⟨rfl, rfl⟩
  | tail _ member => cases member

end Product

/-- A file with one product. -/
def IfcFile.withProduct (p : Product) : IfcFile := ⟨"IFC4", [p], []⟩

end BuildingWorkflow
