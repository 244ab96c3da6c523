import BuildingWorkflow.OrderedMap
import BuildingWorkflow.Proofs.Text.Names
import Mathlib.Algebra.BigOperators.Group.List.Lemmas
import Mathlib.Algebra.GroupWithZero.Nat
import Mathlib.Data.List.Dedup

/-!
How often names occur.

The counts stand in the order in which the names first occur. One more name adds one to its own
count, and all counts together come to the number of the names.
-/
namespace BuildingWorkflow

/-- How often each of some names occurs, in the order in which they first do. -/
def tally (names : List String) : OrderedMap Nat :=
  ⟨names.eraseDups.map fun name => (name, names.count name), by
    simpa [Function.comp_def] using nodup_eraseDups names⟩

theorem keys_tally (names : List String) : (tally names).keys = names.eraseDups := by
  simp [OrderedMap.keys, tally, Function.comp_def]

theorem find?_tally (names : List String) (name : String) :
    (tally names).find? name = if name ∈ names then some (names.count name) else none := by
  split
  · next listed =>
    rw [← OrderedMap.mem_entries_iff]
    exact List.mem_map.mpr ⟨name, List.mem_eraseDups.mpr listed, rfl⟩
  · next missing =>
    rw [OrderedMap.find?_eq_none_iff, keys_tally, List.mem_eraseDups]
    exact missing

theorem getD_find?_tally (names : List String) (name : String) :
    ((tally names).find? name).getD 0 = names.count name := by
  rw [find?_tally]
  split
  · rfl
  · next missing => exact (List.count_eq_zero.mpr missing).symm

theorem tally_append_singleton (names : List String) (name : String) :
    tally (names ++ [name]) = (tally names).update name 0 (· + 1) := by
  refine OrderedMap.ext_find? ?_ fun other => ?_
  · simp only [OrderedMap.update, OrderedMap.keys_insert, keys_tally, eraseDups_append_singleton,
      List.mem_eraseDups]
  · rw [OrderedMap.find?_update, getD_find?_tally, find?_tally, find?_tally]
    by_cases same : other = name
    · simp [same]
    · simp [same, Ne.symm same]

theorem sum_values_tally (names : List String) : (tally names).values.sum = names.length := by
  have perm : names.eraseDups.Perm names.dedup :=
    (List.perm_ext_iff_of_nodup (nodup_eraseDups names) names.nodup_dedup).mpr (by simp)
  rw [← List.sum_map_count_dedup_eq_length names, ← (perm.map _).sum_eq, OrderedMap.values, tally,
    List.map_map]
  rfl

theorem tally_replicate (name : String) {n : Nat} (some : n ≠ 0) :
    tally (List.replicate n name) = .ofList [(name, n)] := by
  have listed (other : String) : other ∈ List.replicate n name ↔ other = name := by
    simp [List.mem_replicate, some]
  refine OrderedMap.ext_find? ?_ fun other => ?_
  · obtain ⟨k, rfl⟩ := Nat.exists_eq_succ_of_ne_zero some
    rw [keys_tally, List.replicate_succ, List.eraseDups_cons, List.filter_replicate]
    simp
    rfl
  · rw [find?_tally, OrderedMap.find?_ofList (by simp), lookup_cons_ite, List.lookup_nil]
    by_cases same : other = name
    · simp [same, some]
    · simp [listed, same]

end BuildingWorkflow
