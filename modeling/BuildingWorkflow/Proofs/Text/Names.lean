import BuildingWorkflow.Text.Sorted
import Mathlib.Data.List.Induction
import Mathlib.Data.String.Basic

/-!
Names in the order of their code points: what is listed, once and in order, and which name is least.
-/
namespace BuildingWorkflow

theorem nodup_eraseDups (names : List String) : names.eraseDups.Nodup := by
  match names with
  | [] => simp
  | name :: rest =>
      have shorter := List.length_filter_le (fun other => !other == name) rest
      rw [List.eraseDups_cons, List.nodup_cons, List.mem_eraseDups]
      exact ⟨by simp, nodup_eraseDups _⟩
termination_by names.length
decreasing_by simp only [List.length_cons]; omega

theorem eraseDups_of_nodup {names : List String} (distinct : names.Nodup) :
    names.eraseDups = names := by
  induction names with
  | nil => rfl
  | cons name rest ih =>
      obtain ⟨fresh, distinct⟩ := List.nodup_cons.mp distinct
      have others : ∀ other ∈ rest, (!other == name) = true := by
        intro other member
        simpa using ne_of_mem_of_not_mem member fresh
      rw [List.eraseDups_cons, List.filter_eq_self.mpr others, ih distinct]

theorem eraseDups_append_cons {names rest : List String} {name : String} (listed : name ∈ names) :
    (names ++ name :: rest).eraseDups = (names ++ rest).eraseDups := by
  rw [List.eraseDups_append, List.eraseDups_append, List.cons_removeAll]
  simp [listed]

theorem eraseDups_append_singleton (names : List String) (name : String) :
    (names ++ [name]).eraseDups =
      if name ∈ names then names.eraseDups else names.eraseDups ++ [name] := by
  split
  · next listed => rw [eraseDups_append_cons listed, List.append_nil]
  · next fresh =>
    have added : [name].removeAll names = [name] := by simp [List.removeAll, fresh]
    rw [List.eraseDups_append, added]
    rfl

/-- What is listed once stands in the order of first appearance. -/
theorem pairwise_idxOf_eraseDups (names : List String) :
    names.eraseDups.Pairwise fun a b => names.idxOf a < names.idxOf b := by
  induction names using List.reverseRecOn with
  | nil => exact .nil
  | append_singleton names name ih =>
      have kept : names.eraseDups.Pairwise
          fun a b => (names ++ [name]).idxOf a < (names ++ [name]).idxOf b := by
        refine ih.imp_of_mem fun member member' less => ?_
        rwa [List.idxOf_append_of_mem (List.mem_eraseDups.mp member),
          List.idxOf_append_of_mem (List.mem_eraseDups.mp member')]
      rw [eraseDups_append_singleton]
      split
      · exact kept
      · next fresh =>
        refine List.pairwise_append.mpr ⟨kept, List.pairwise_singleton _ _, ?_⟩
        intro a member b last
        obtain rfl := List.mem_singleton.mp last
        have listed := List.mem_eraseDups.mp member
        rw [List.idxOf_append_of_mem listed, List.idxOf_append_of_notMem fresh]
        exact Nat.lt_add_right _ (List.idxOf_lt_length_of_mem listed)

@[simp] theorem mem_sortedNames (names : List String) (name : String) :
    name ∈ sortedNames names ↔ name ∈ names := by
  simp [sortedNames]

theorem nodup_sortedNames (names : List String) : (sortedNames names).Nodup :=
  (List.mergeSort_perm _ _).nodup_iff.mpr (nodup_eraseDups names)

/-- Items in the order of their names are in order by them. -/
theorem pairwise_mergeSort_names {α : Type} (name : α → String) (items : List α) :
    (items.mergeSort fun a b => name a ≤ name b).Pairwise fun a b => name a ≤ name b := by
  have sorted := @List.pairwise_mergeSort _ (fun a b => decide (name a ≤ name b))
    (fun a b c hab hbc => by simpa using le_trans (of_decide_eq_true hab) (of_decide_eq_true hbc))
    (fun a b => by simpa using le_total (name a) (name b)) items
  exact sorted.imp of_decide_eq_true

theorem pairwise_sortedNames (names : List String) : (sortedNames names).Pairwise (· ≤ ·) :=
  pairwise_mergeSort_names id names.eraseDups

/-- There is one order of some names, however often each of them occurs. -/
theorem eq_of_perm_of_pairwise {names names' : List String} (same : names.Perm names')
    (sorted : names.Pairwise (· ≤ ·)) (sorted' : names'.Pairwise (· ≤ ·)) : names = names' :=
  List.Perm.eq_of_pairwise (fun _ _ _ _ => le_antisymm) sorted sorted' same

theorem sortedNames_congr {names names' : List String}
    (same : ∀ name, name ∈ names ↔ name ∈ names') : sortedNames names = sortedNames names' := by
  refine eq_of_perm_of_pairwise ?_ (pairwise_sortedNames names) (pairwise_sortedNames names')
  refine (List.perm_ext_iff_of_nodup (nodup_sortedNames names) (nodup_sortedNames names')).mpr ?_
  simpa using same

/-- A search through sorted names finds the least name that passes the test. -/
theorem le_of_find?_sortedNames {names : List String} {test : String → Bool} {name : String}
    (found : (sortedNames names).find? test = some name) {other : String}
    (member : other ∈ names) (passes : test other) : name ≤ other := by
  obtain ⟨-, before, after, split, earlier⟩ := List.find?_eq_some_iff_append.mp found
  have sorted := pairwise_sortedNames names
  rw [split, List.pairwise_append, List.pairwise_cons] at sorted
  have place : other ∈ before ++ name :: after := split ▸ (mem_sortedNames names other).mpr member
  cases List.mem_append.mp place with
  | inl inside =>
      have refused := earlier other inside
      simp [passes] at refused
  | inr inside =>
      obtain rfl | inside := List.mem_cons.mp inside
      · exact le_refl other
      · exact sorted.2.1.1 other inside

theorem leastName?_eq_none_iff (names : List String) : leastName? names = none ↔ names = [] := by
  cases names with
  | nil => simp [leastName?]
  | cons name rest =>
      simp only [leastName?, reduceCtorEq, iff_false]
      split <;> simp

theorem leastName?_spec {names : List String} {least : String} (h : leastName? names = some least) :
    least ∈ names ∧ ∀ name ∈ names, least ≤ name := by
  induction names generalizing least with
  | nil => simp [leastName?] at h
  | cons name rest ih =>
      simp only [leastName?] at h
      cases found : leastName? rest with
      | none =>
          rw [found, Option.some.injEq] at h
          subst h
          rw [leastName?_eq_none_iff] at found
          simp [found]
      | some other =>
          rw [found, Option.some.injEq] at h
          obtain ⟨member, below⟩ := ih found
          by_cases less : other < name
          · rw [if_pos less] at h
            subst h
            refine ⟨List.mem_cons_of_mem _ member, fun x hx => ?_⟩
            obtain rfl | hx := List.mem_cons.mp hx
            · exact le_of_lt less
            · exact below x hx
          · rw [if_neg less] at h
            subst h
            refine ⟨List.mem_cons_self, fun x hx => ?_⟩
            obtain rfl | hx := List.mem_cons.mp hx
            · exact le_refl x
            · exact le_trans (not_lt.mp less) (below x hx)

theorem leastName?_congr {names names' : List String} (same : ∀ id, id ∈ names ↔ id ∈ names') :
    leastName? names = leastName? names' := by
  cases least : leastName? names with
  | none =>
      rw [leastName?_eq_none_iff] at least
      subst least
      exact ((leastName?_eq_none_iff names').mpr
        (List.eq_nil_iff_forall_not_mem.mpr fun id member => by simpa using (same id).mpr member)).symm
  | some id =>
      obtain ⟨member, below⟩ := leastName?_spec least
      cases least' : leastName? names' with
      | none =>
          rw [leastName?_eq_none_iff] at least'
          subst least'
          simpa using (same id).mp member
      | some id' =>
          obtain ⟨member', below'⟩ := leastName?_spec least'
          exact congrArg some (le_antisymm (below id' ((same id').mpr member'))
            (below' id ((same id).mp member)))

end BuildingWorkflow
