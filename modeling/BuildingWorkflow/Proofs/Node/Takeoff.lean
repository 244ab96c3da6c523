import BuildingWorkflow.Proofs.Node.Overflow
import BuildingWorkflow.Proofs.Node.Property
import BuildingWorkflow.Proofs.Number.Whole
import BuildingWorkflow.Proofs.Text.Tally

/-!
Quantity takeoffs by groups.

A takeoff has one entry for each group of its elements, in the order in which the groups first occur,
unless it comes to a whole number that is too large. When elements are counted the entries are exact,
and they sum up to the number of all elements.
-/
namespace BuildingWorkflow

/-! ## Groups -/

namespace Grouping

/-- What elements are grouped by. -/
inductive Marks (e : Element) : Grouping → String → Prop
  | type : Marks e .type e.typeLabel
  | material {name : String} (known : e.material? = some name) : Marks e .material name
  | level {name : String} (known : e.storey? = some name) : Marks e .level name

/-- The key of the group of an element. A mark that is missing or empty does not tell the group. -/
inductive Groups (e : Element) : Grouping → String → Prop
  | total : Groups e .none "Total"
  | marked {grouping : Grouping} {key : String} (marks : grouping.Marks e key)
      (filled : key ≠ "") : Groups e grouping key
  | unknown {grouping : Grouping} (parted : grouping ≠ .none)
      (unmarked : ∀ key, grouping.Marks e key → key = "") : Groups e grouping "Unknown"

variable {grouping : Grouping} {e : Element} {key key' : String}

theorem Marks.unique (marks : grouping.Marks e key) (marks' : grouping.Marks e key') :
    key = key' := by
  cases marks with
  | type =>
      cases marks'
      rfl
  | material known =>
      cases marks' with
      | material known' => exact Option.some.inj (known.symm.trans known')
  | level known =>
      cases marks' with
      | level known' => exact Option.some.inj (known.symm.trans known')

theorem Groups.unique (groups : grouping.Groups e key) (groups' : grouping.Groups e key') :
    key = key' := by
  cases groups with
  | total =>
      cases groups' with
      | total => rfl
      | marked marks => cases marks
      | unknown parted => exact absurd rfl parted
  | marked marks filled =>
      cases groups' with
      | total => cases marks
      | marked marks' => exact marks.unique marks'
      | unknown _ unmarked => exact absurd (unmarked _ marks) filled
  | unknown parted unmarked =>
      cases groups' with
      | total => exact absurd rfl parted
      | marked marks filled => exact absurd (unmarked _ marks) filled
      | unknown => rfl

theorem groups_getD (mark : Option String) (parted : grouping ≠ .none)
    (marks : ∀ key, grouping.Marks e key ↔ mark = some key) :
    grouping.Groups e ((mark.filter (· != "")).getD "Unknown") := by
  cases mark with
  | none => exact .unknown parted fun key marked => nomatch (marks key).mp marked
  | some name =>
      by_cases empty : name = ""
      · subst empty
        exact .unknown parted fun key marked => (Option.some.inj ((marks key).mp marked)).symm
      · have filled : (some name).filter (· != "") = some name := by simp [empty]
        rw [filled]
        exact .marked ((marks name).mpr rfl) empty

theorem groups_keyOf (grouping : Grouping) (e : Element) :
    grouping.Groups e (grouping.keyOf e) := by
  cases grouping with
  | none => exact .total
  | type =>
      refine groups_getD (some e.typeLabel) nofun fun key => ⟨fun marks => ?_, fun same => ?_⟩
      · cases marks
        rfl
      · exact Option.some.inj same ▸ .type
  | material =>
      exact groups_getD e.material? nofun fun key => ⟨fun (.material known) => known, .material⟩
  | level =>
      exact groups_getD e.storey? nofun fun key => ⟨fun (.level known) => known, .level⟩

theorem groups_iff : grouping.Groups e key ↔ grouping.keyOf e = key := by
  constructor
  · exact (groups_keyOf grouping e).unique
  · rintro rfl
    exact groups_keyOf grouping e

end Grouping

/-! ## Totals -/

def ofCount (n : Nat) : Binary64 := .ofInt n

theorem ofCount_add_one {n : Nat} (few : n + 1 ≤ 2 ^ 53) : ofCount n + 1 = ofCount (n + 1) :=
  Binary64.ofInt_add (m := 1) (by omega) (by decide)

theorem roundedTotal_ofCount {n : Nat} (few : n ≤ 2 ^ 53) : roundedTotal (ofCount n) = .int n := by
  rw [roundedTotal, ofCount, Binary64.roundPlaces_ofInt few, Value.ofFloat_natCast few]

section Totals

variable {grouping : Grouping} {m : Measure} {elements : List Element}

/-- Each group gets an entry when its first element comes. -/
theorem keys_addUp {totals totals' : OrderedMap Binary64}
    (done : addUp grouping m totals elements = .ok totals') :
    totals'.keys = (totals.keys ++ elements.map grouping.keyOf).eraseDups := by
  induction elements generalizing totals with
  | nil =>
      cases done
      rw [List.map_nil, List.append_nil, eraseDups_of_nodup (OrderedMap.nodup_keys _)]
  | cons e rest ih =>
      obtain ⟨x, -, done⟩ := bind_eq_ok done
      rw [ih done, List.map_cons, OrderedMap.update, OrderedMap.keys_insert]
      split
      · next listed => rw [eraseDups_append_cons listed]
      · rw [List.append_assoc, List.singleton_append]

/-- One more element is counted for its group. -/
theorem update_count {names : List String} {name : String} (few : names.length + 1 ≤ 2 ^ 53) :
    ((tally names).map ofCount).update name 0 (· + 1) = (tally (names ++ [name])).map ofCount := by
  have bound : names.count name + 1 ≤ 2 ^ 53 :=
    (Nat.add_le_add_right List.count_le_length 1).trans few
  rw [tally_append_singleton]
  refine OrderedMap.map_update (tally names) name 0 ?_
  rw [getD_find?_tally]
  exact ofCount_add_one bound

/-- Counting is exact as long as there are at most `2 ^ 53` elements. -/
theorem addUp_count (names : List String) (few : names.length + elements.length ≤ 2 ^ 53) :
    addUp grouping .count ((tally names).map ofCount) elements =
      .ok ((tally (names ++ elements.map grouping.keyOf)).map ofCount) := by
  induction elements generalizing names with
  | nil =>
      rw [List.map_nil, List.append_nil]
      rfl
  | cons e rest ih =>
      rw [List.length_cons] at few
      have longer : (names ++ [grouping.keyOf e]).length + rest.length ≤ 2 ^ 53 := by
        rw [List.length_append, List.length_singleton]
        omega
      calc addUp grouping .count ((tally names).map ofCount) (e :: rest)
          = addUp grouping .count (((tally names).map ofCount).update (grouping.keyOf e) 0 (· + 1))
              rest := rfl
        _ = .ok ((tally (names ++ (e :: rest).map grouping.keyOf)).map ofCount) := by
            rw [update_count (by omega), ih _ longer, List.append_assoc]
            rfl

/-- A count comes out as the whole number that it is. -/
theorem map_roundedTotal_tally {names : List String} (few : names.length ≤ 2 ^ 53) :
    ((tally names).map ofCount).map roundedTotal = (tally names).map fun n : Nat => .int n := by
  refine OrderedMap.ext_find? (by simp only [OrderedMap.keys_map]) fun name => ?_
  simp only [OrderedMap.find?_map, find?_tally]
  split
  · have bound := List.count_le_length (a := name) (l := names)
    exact congrArg some (roundedTotal_ofCount (bound.trans few))
  · rfl

end Totals

/-! ## Takeoffs -/

namespace QuantityOptions

section Takeoff

variable {o : QuantityOptions} {inputs : Inputs} {source : Collection}
  (main : inputs.main = .ok source) (nonempty : source.elements ≠ [])

include main nonempty

theorem evaluate_eq : o.evaluate inputs =
    (addUp o.grouping o.measure .empty source.elements).map fun totals =>
      .aggregate (totals.map roundedTotal) (if o.unit = "" then o.measure.unit else o.unit) := by
  have some : source.elements.isEmpty = false := by simpa using nonempty
  rw [evaluate, main]
  change (if source.elements.isEmpty then _ else _) = _
  rw [some]
  cases addUp o.grouping o.measure .empty source.elements <;> rfl

theorem evaluate_count (counted : o.measure = .count) (few : source.elements.length ≤ 2 ^ 53) :
    o.evaluate inputs = .ok (.aggregate
      ((tally (source.elements.map o.grouping.keyOf)).map fun n : Nat => .int n)
      (if o.unit = "" then o.measure.unit else o.unit)) := by
  have totals : addUp o.grouping o.measure .empty source.elements =
      .ok ((tally (source.elements.map o.grouping.keyOf)).map ofCount) := by
    rw [counted]
    exact addUp_count [] (by rwa [List.length_nil, Nat.zero_add])
  have whole : (source.elements.map o.grouping.keyOf).length ≤ 2 ^ 53 := by rwa [List.length_map]
  rw [evaluate_eq main nonempty, totals, ← map_roundedTotal_tally whole]
  rfl

theorem overflows_evaluate : Overflows (o.evaluate inputs)
    (∃ e ∈ source.elements, MeetsOversized (e.recorded o.measure)) := by
  rw [evaluate_eq main nonempty]
  exact Overflows.map (overflows_addUp _ _ _ _) _

end Takeoff

def wallOfArea (area : Value) : Element := { PropertyOptions.measuredWall with
  qtos := .ofList [("BaseQuantities", .ofList [("Area", area)])] }

def wallAndSlab : Collection :=
  ⟨[wallOfArea (.int 4), { wallOfArea (.int 6) with type := "IfcSlab" }, wallOfArea (.int 2)], none⟩

/-- Areas whose sum is beyond the largest float, however the last one is read. -/
def vastWalls : Collection :=
  ⟨[wallOfArea (.float (.ofDecimal false 1 308)), wallOfArea (.float (.ofDecimal false 1 308)),
    wallOfArea overload], none⟩

end QuantityOptions

end BuildingWorkflow
