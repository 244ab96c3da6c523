import BuildingWorkflow.Proofs.Node.Comparison
import BuildingWorkflow.Proofs.Number.WholeText

/-!
Comparisons of a whole number with a numeral.

Both sides are compared as the doubles that they are rounded to. Two whole numbers are never found in
the wrong order, but those that are rounded to one double count as equal.
-/
namespace BuildingWorkflow

open Binary64

section Numeral

variable {i j : Int} {text : String}

theorem compareNumbers_int (small : i.natAbs < endOfWhole) {y : Binary64}
    (read : readNumber? text = some y) (relation : Binary64 → Binary64 → Bool) :
    compareNumbers relation (.int i) text = .ok (relation (ofInt i) y) := by
  have left : (Value.int i).number? = .ok (some (ofInt i)) := by
    rw [Value.number?, intToFloat_of_lt small]
    rfl
  rw [compareNumbers, left, read]
  rfl

/-- Numerals that are equal as texts are read as one double. -/
theorem merge_of_alike (written : Numerates text j)
    (alike : lower (trim (intText i)) = lower (trim text)) : Merge i j := by
  obtain ⟨x, shown, left⟩ := (numerates_intText i).readNumber?
  obtain ⟨y, read, right⟩ := written.readNumber?
  rw [readNumber?_congr alike, read] at shown
  cases shown
  rw [Merge, ← (right _).1, (left _).1]
  exact merge_self i

theorem equalsExpected_numeral (written : Numerates text j) (small : i.natAbs < endOfWhole) :
    equalsExpected (.int i) text = .ok (decide (Merge i j)) := by
  obtain ⟨y, read, right⟩ := written.readNumber?
  unfold equalsExpected
  split
  · next alike => rw [decide_eq_true (merge_of_alike written alike)]
  · rw [Value.isNumber, if_pos rfl, compareNumbers_int small read, (right _).1]
    exact congrArg Except.ok Bool.decide_eq_true.symm

end Numeral

/-- A whole number and a numeral are told apart as far as doubles tell them apart: always if one of
the two is less than `2 ^ 53` in size or neither is more. -/
theorem compare_numeral :
    (∀ {i j : Int} {text : String}, Numerates text j → i.natAbs < endOfWhole →
      compare (some (.int i)) .equals text = .ok (decide (Merge i j)) ∧
      compare (some (.int i)) .notEquals text = .ok (decide ¬ Merge i j) ∧
      compare (some (.int i)) .greaterThan text = .ok (decide (i > j ∧ ¬ Merge i j)) ∧
      compare (some (.int i)) .lessThan text = .ok (decide (i < j ∧ ¬ Merge i j))) ∧
    ∀ {i j : Int},
      i.natAbs < 2 ^ 53 ∨ j.natAbs < 2 ^ 53 ∨ i.natAbs ≤ 2 ^ 53 ∧ j.natAbs ≤ 2 ^ 53 →
        (Merge i j ↔ i = j) := by
  constructor
  · intro i j text written small
    obtain ⟨y, read, right⟩ := written.readNumber?
    have equal := equalsExpected_numeral written small
    refine ⟨equal, ?_, ?_, ?_⟩
    · change (equalsExpected (.int i) text).map (!·) = _
      rw [equal, decide_not]
      rfl
    · change compareNumbers (fun x y => y.less x) (.int i) text = _
      rw [compareNumbers_int small read, (right _).2.2]
      have apart : j < i ∧ ¬ Merge j i ↔ i > j ∧ ¬ Merge i j :=
        and_congr_right' (not_congr ⟨Merge.symm, Merge.symm⟩)
      exact congrArg Except.ok
        (Bool.eq_iff_iff.mpr (less_ofInt_iff.trans (apart.trans decide_eq_true_iff.symm)))
    · change compareNumbers Binary64.less (.int i) text = _
      rw [compareNumbers_int small read, (right _).2.1]
      exact congrArg Except.ok (Bool.eq_iff_iff.mpr (less_ofInt_iff.trans decide_eq_true_iff.symm))
  · intro i j small
    exact ⟨fun merge => merge.eq small, fun same => same ▸ merge_self i⟩

/-- A numeral with zeros in front, and the last number that is told apart from all others. -/
theorem compare_numeral_padded :
    (Numerates "-007" (-7) ∧ (-7 : Int).natAbs < endOfWhole ∧
      compare (some (.int (-7))) .equals "-007" = .ok (decide (Merge (-7) (-7)))) ∧
    (2 ^ 53 - 1 : Int).natAbs < 2 ^ 53 ∧
      (Merge (2 ^ 53 - 1) (2 ^ 53) ↔ (2 ^ 53 - 1 : Int) = 2 ^ 53) := by
  have written : Numerates "-007" (-7) := .negative "007".toList (by decide) (List.all_eq_true.mp rfl)
  have small : (-7 : Int).natAbs < endOfWhole := by decide +kernel
  exact ⟨⟨written, small, (compare_numeral.1 written small).1⟩, by decide,
    compare_numeral.2 (.inl (by decide))⟩

/-- The first whole number that falls together with another counts as equal to it. -/
theorem compare_past_mantissa :
    Numerates "9007199254740992" 9007199254740992 ∧
      compare (some (.int 9007199254740993)) .equals "9007199254740992" = .ok true := by
  have written : Numerates "9007199254740992" 9007199254740992 :=
    .unsigned "9007199254740992".toList (by decide) (List.all_eq_true.mp rfl)
  have merge : Merge 9007199254740993 9007199254740992 := by decide +kernel
  have equal := equalsExpected_numeral (i := 9007199254740993) written (by decide +kernel)
  rw [decide_eq_true merge] at equal
  exact ⟨written, equal⟩

end BuildingWorkflow
