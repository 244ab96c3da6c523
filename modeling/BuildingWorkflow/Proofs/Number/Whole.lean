import BuildingWorkflow.Proofs.Number.Rounded

/-!
Whole numbers compared as doubles.

Whole numbers keep their order when they are rounded to doubles, but may fall together. They are told
apart exactly as long as one of the two is less than `2 ^ 53` in size. Up to there they are doubles
themselves, and are added and rounded to decimal places without a loss.
-/
namespace BuildingWorkflow

open Binary64

/-- The number of units that a whole number is rounded to, as if there were no largest double. -/
def nearest (n : Int) : Int := signedUnits (n < 0) (roundUnits (n.natAbs * unitsPerOne))

theorem roundUnits_mul_unitsPerOne {n : Nat} (few : n ≤ 2 ^ 53) :
    roundUnits (n * unitsPerOne) = n * unitsPerOne := by
  obtain ⟨k, -, one⟩ := exists_unitsPerOne_eq
  rw [one]
  exact roundUnits_of_dvd (Nat.dvd_of_mod_eq_zero (mul_pow_mod_spacing few))

theorem nearest_of_le {n : Int} (few : n.natAbs ≤ 2 ^ 53) : nearest n = n * unitsPerOne := by
  rw [nearest, roundUnits_mul_unitsPerOne few, signedUnits, Nat.cast_mul]
  split
  · next negative =>
    rw [decide_eq_true_eq] at negative
    rw [← neg_mul]
    congr 1
    omega
  · next positive =>
    rw [decide_eq_true_eq] at positive
    congr 1
    omega

theorem nearest_mono {i j : Int} (le : i ≤ j) : nearest i ≤ nearest j := by
  have grows {m n : Nat} (le : m ≤ n) :
      (roundUnits (m * unitsPerOne) : Int) ≤ roundUnits (n * unitsPerOne) :=
    Int.ofNat_le.mpr (roundUnits_mono (Nat.mul_le_mul_right _ le))
  unfold nearest signedUnits
  by_cases left : i < 0
  · by_cases right : j < 0
    · simp only [left, right, decide_true, if_true]
      exact neg_le_neg (grows (by omega))
    · simp only [left, right, decide_true, decide_false, if_true, Bool.false_eq_true, if_false]
      omega
  · have right : ¬ j < 0 := by omega
    simp only [left, right, decide_false, Bool.false_eq_true, if_false]
    exact grows (by omega)

namespace Binary64

theorem ofInt_of_lt {n : Int} (small : n.natAbs < endOfWhole) :
    ∃ h, ofInt n = .finite (n < 0) (roundUnits (n.natAbs * unitsPerOne)) h :=
  (isFinite_ofInt small).ofQuotient_one

theorem same_comm (x y : Binary64) : x.same y = y.same x := by
  cases x <;> cases y <;> simp only [same, Bool.beq_comm]

/-- Whole numbers that are rounded to one double. -/
def Merge (i j : Int) : Prop := (ofInt i).same (ofInt j) = true

instance (i j : Int) : Decidable (Merge i j) := inferInstanceAs (Decidable (_ = _))

theorem Merge.symm {i j : Int} (merge : Merge i j) : Merge j i := by
  rw [Merge, same_comm]
  exact merge

/-- Whole numbers fall together when both are finite and round to one count of units, or both are
infinite with one sign. -/
theorem merge_iff {i j : Int} : Merge i j ↔
    (i.natAbs < endOfWhole ∧ j.natAbs < endOfWhole ∧ nearest i = nearest j) ∨
    (endOfWhole ≤ i.natAbs ∧ endOfWhole ≤ j.natAbs ∧ (i < 0 ↔ j < 0)) := by
  rw [Merge]
  obtain left | left := Nat.lt_or_ge i.natAbs endOfWhole
  · obtain ⟨h, first⟩ := ofInt_of_lt left
    obtain right | right := Nat.lt_or_ge j.natAbs endOfWhole
    · obtain ⟨h', second⟩ := ofInt_of_lt right
      rw [first, second]
      simp [same, nearest, left, right, Nat.not_le_of_gt left]
    · rw [first, ofInt_eq_infinite right]
      simp [same, Nat.not_lt_of_ge right, Nat.not_le_of_gt left]
  · rw [ofInt_eq_infinite left]
    obtain right | right := Nat.lt_or_ge j.natAbs endOfWhole
    · obtain ⟨h', second⟩ := ofInt_of_lt right
      rw [second]
      simp [same, Nat.not_lt_of_ge left, Nat.not_le_of_gt right]
    · rw [ofInt_eq_infinite right]
      simp [same, left, right, Nat.not_lt_of_ge left]

/-- Rounding keeps the order of whole numbers that it does not let fall together. -/
theorem less_ofInt_iff {i j : Int} :
    (ofInt i).less (ofInt j) = true ↔ i < j ∧ ¬ Merge i j := by
  rw [merge_iff]
  obtain left | left := Nat.lt_or_ge i.natAbs endOfWhole
  · obtain ⟨h, first⟩ := ofInt_of_lt left
    obtain right | right := Nat.lt_or_ge j.natAbs endOfWhole
    · obtain ⟨h', second⟩ := ofInt_of_lt right
      have lifted : (ofInt i).less (ofInt j) = true ↔ nearest i < nearest j := by
        rw [first, second]
        simp [less, nearest]
      rw [lifted]
      constructor
      · intro below
        refine ⟨?_, ?_⟩
        · by_contra above
          exact absurd (nearest_mono (Int.not_lt.mp above)) (Int.not_le.mpr below)
        · rintro (⟨-, -, same⟩ | ⟨large, -, -⟩) <;> omega
      · rintro ⟨below, apart⟩
        have le := nearest_mono below.le
        have ne : nearest i ≠ nearest j := fun same => apart (.inl ⟨left, right, same⟩)
        omega
    · rw [first, ofInt_eq_infinite right]
      simp only [less, Bool.not_eq_true', decide_eq_false_iff_not]
      omega
  · rw [ofInt_eq_infinite left]
    obtain right | right := Nat.lt_or_ge j.natAbs endOfWhole
    · obtain ⟨h', second⟩ := ofInt_of_lt right
      rw [second]
      simp only [less, decide_eq_true_eq]
      omega
    · rw [ofInt_eq_infinite right]
      simp only [less, Bool.and_eq_true, Bool.not_eq_true', decide_eq_true_eq,
        decide_eq_false_iff_not]
      omega

theorem merge_self (i : Int) : Merge i i := by
  rw [merge_iff]
  omega

theorem pow_lt_endOfWhole : 2 ^ 53 < endOfWhole := by decide +kernel

/-- A whole number below `2 ^ 53` does not fall together with another one. -/
theorem Merge.eq_of_lt {i j : Int} (merge : Merge i j) (small : i.natAbs < 2 ^ 53) : i = j := by
  obtain ⟨-, -, same⟩ | ⟨large, -, -⟩ := merge_iff.mp merge
  · have one : (0 : Int) < unitsPerOne := Int.natCast_pos.mpr unitsPerOne_pos
    rw [nearest_of_le small.le] at same
    -- The neighbours of the number are doubles themselves, and lie between it and all others.
    obtain below | equal | above := lt_trichotomy i j
    · have next := nearest_mono (Int.add_one_le_iff.mpr below)
      rw [nearest_of_le (by omega), ← same] at next
      exact absurd (le_of_mul_le_mul_right next one) (by omega)
    · exact equal
    · have last := nearest_mono (Int.le_sub_one_iff.mpr above)
      rw [nearest_of_le (n := i - 1) (by omega), ← same] at last
      exact absurd (le_of_mul_le_mul_right last one) (by omega)
  · exact absurd large (Nat.not_le_of_gt (small.trans pow_lt_endOfWhole))

/-- Whole numbers of which one is below `2 ^ 53`, or neither is above, do not fall together. -/
theorem Merge.eq {i j : Int} (merge : Merge i j)
    (small : i.natAbs < 2 ^ 53 ∨ j.natAbs < 2 ^ 53 ∨ i.natAbs ≤ 2 ^ 53 ∧ j.natAbs ≤ 2 ^ 53) :
    i = j := by
  obtain left | right | ⟨left, right⟩ := small
  · exact merge.eq_of_lt left
  · exact (merge.symm.eq_of_lt right).symm
  · obtain ⟨-, -, same⟩ | ⟨large, -, -⟩ := merge_iff.mp merge
    · have one : (unitsPerOne : Int) ≠ 0 := Int.natCast_ne_zero.mpr unitsPerOne_pos.ne'
      rw [nearest_of_le left, nearest_of_le right] at same
      exact mul_right_cancel₀ one same
    · exact absurd large (Nat.not_le_of_gt (left.trans_lt pow_lt_endOfWhole))

/-! ## Numbers that are doubles -/

section Exact

variable {n m : Nat}

theorem ofInt_eq_ofQuotient (n : Nat) : ofInt n = ofQuotient false (n * unitsPerOne) 1 := by
  have positive : decide ((n : Int) < 0) = false := by simp
  rw [ofInt, positive, Int.natAbs_natCast]

theorem ofInt_natCast (few : n ≤ 2 ^ 53) : ∃ h, ofInt n = .finite false (n * unitsPerOne) h := by
  have small : (n : Int).natAbs < endOfWhole := few.trans_lt pow_lt_endOfWhole
  have finite := isFinite_ofInt small
  rw [ofInt_eq_ofQuotient] at finite ⊢
  have value := finite.ofQuotient_one
  rwa [roundUnits_mul_unitsPerOne few] at value

theorem ofInt_add (left : n ≤ 2 ^ 53) (right : m ≤ 2 ^ 53) :
    ofInt n + ofInt m = ofInt (n + m : Nat) := by
  obtain ⟨h, finite⟩ := ofInt_natCast left
  obtain ⟨h', finite'⟩ := ofInt_natCast right
  have positive : decide ((((n + m) * unitsPerOne : Nat) : Int) < 0) = false := by
    rw [decide_eq_false_iff_not]
    omega
  have units : (signedUnits false (n * unitsPerOne) + signedUnits false (m * unitsPerOne)) =
      ((n + m) * unitsPerOne : Nat) := by
    rw [Nat.add_mul]
    rfl
  calc ofInt n + ofInt m
      = ofUnits ((n + m) * unitsPerOne : Nat) false := by
        rw [finite, finite', ← units]
        rfl
    _ = ofInt (n + m : Nat) := by
        rw [ofUnits, positive, ite_self, Int.natAbs_natCast, ofInt_eq_ofQuotient]

theorem roundPlaces_ofInt (few : n ≤ 2 ^ 53) (places : Nat) :
    (ofInt n).roundPlaces places = ofInt n := by
  obtain ⟨h, finite⟩ := ofInt_natCast few
  have shift : 0 < Nat.pow 10 places := Nat.pow_pos (by decide)
  have exact : roundQuotient (n * unitsPerOne * Nat.pow 10 places) unitsPerOne =
      n * Nat.pow 10 places := by
    have quotient := roundQuotient_mul_mul (n * Nat.pow 10 places) 1 unitsPerOne_pos
    rw [Nat.one_mul, Nat.mul_right_comm] at quotient
    rw [quotient, roundQuotient]
    simp [Nat.mod_one]
  calc (ofInt n).roundPlaces places
      = ofQuotient false (n * unitsPerOne * Nat.pow 10 places) (1 * Nat.pow 10 places) := by
        rw [finite, roundPlaces]
        rw [exact, Nat.mul_right_comm, Nat.one_mul]
    _ = ofInt n := by rw [ofQuotient_mul_mul false _ _ shift, ofInt_eq_ofQuotient]

end Exact

end Binary64

theorem Value.ofFloat_natCast {n : Nat} (few : n ≤ 2 ^ 53) : ofFloat (.ofInt n) = .int n := by
  obtain ⟨h, finite⟩ := Binary64.ofInt_natCast few
  rw [finite, ofFloat, Binary64.whole?, Nat.mul_mod_left, if_pos rfl,
    Nat.mul_div_cancel _ unitsPerOne_pos]
  rfl

end BuildingWorkflow
