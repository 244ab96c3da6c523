import BuildingWorkflow.Proofs.Number.Overflow

/-!
Quotients and counts of units, rounded.

Rounding keeps the order of quotients, and it keeps every count that lies on the grid of its own
steps. The whole part of a rounded number is that of the number half a step further up, as long as
there are steps smaller than one.
-/
namespace BuildingWorkflow

/-- The number of units in one is a power of two. -/
theorem exists_unitsPerOne_eq : ∃ k, 1074 = k ∧ unitsPerOne = 2 ^ k := ⟨_, rfl, by decide +kernel⟩

/-! ## Quotients -/

theorem roundQuotient_mono {num num' den : Nat} (pos : 0 < den) (le : num ≤ num') :
    roundQuotient num den ≤ roundQuotient num' den := by
  obtain rfl | less := Nat.eq_or_lt_of_le le
  · exact le_rfl
  · apply roundQuotient_le_of_lt pos
    linarith [(two_mul_roundQuotient num' pos).1]

theorem log2_mono {a b : Nat} (le : a ≤ b) : a.log2 ≤ b.log2 := by
  obtain rfl | nonzero := eq_or_ne a 0
  · rw [Nat.log2_zero]
    exact Nat.zero_le _
  · exact (Nat.le_log2 (by omega)).mpr ((Nat.log2_self_le nonzero).trans le)

/-- The count that a quotient of units is rounded to, as if there were no largest double. -/
def quotientUnits (num den : Nat) : Nat :=
  roundQuotient num (den * spacing (num / den)) * spacing (num / den)

section Quotient

variable {num num' den a b : Nat} (pos : 0 < den)

include pos

/-- Rounding does not go below what lies on the grid. -/
theorem le_quotientUnits (grid : spacing (num / den) ∣ a) (le : a * den ≤ num) :
    a ≤ quotientUnits num den := by
  rw [quotientUnits]
  have step_pos := spacing_pos (num / den)
  generalize spacing (num / den) = step at *
  obtain ⟨k, rfl⟩ := grid
  have steps : k ≤ num / (den * step) := by
    apply (Nat.le_div_iff_mul_le (Nat.mul_pos pos step_pos)).mpr
    linarith
  rw [Nat.mul_comm]
  exact Nat.mul_le_mul_right _ (steps.trans (le_roundQuotient _ _))

/-- Rounding does not go above what lies on the grid. -/
theorem quotientUnits_le (grid : spacing (num / den) ∣ b) (le : num ≤ b * den) :
    quotientUnits num den ≤ b := by
  rw [quotientUnits]
  have step_pos := spacing_pos (num / den)
  generalize spacing (num / den) = step at *
  obtain ⟨k, rfl⟩ := grid
  have gap := Nat.mul_pos pos step_pos
  have steps : roundQuotient num (den * step) ≤ k := by
    apply roundQuotient_le_of_lt gap
    linarith
  rw [Nat.mul_comm]
  exact Nat.mul_le_mul_left _ steps

/-- A quotient that is a count on its own grid is kept. -/
theorem quotientUnits_mul (grid : spacing a ∣ a) : quotientUnits (a * den) den = a := by
  have whole := Nat.mul_div_cancel a pos
  exact le_antisymm (quotientUnits_le pos (whole.symm ▸ grid) le_rfl)
    (le_quotientUnits pos (whole.symm ▸ grid) le_rfl)

theorem quotientUnits_mono (le : num ≤ num') : quotientUnits num den ≤ quotientUnits num' den := by
  have floors := Nat.div_le_div_right (c := den) le
  obtain same | less := Nat.eq_or_lt_of_le (log2_mono floors)
  · have steps : spacing (num / den) = spacing (num' / den) := by rw [spacing, spacing, same]
    rw [quotientUnits, quotientUnits, steps]
    exact Nat.mul_le_mul_right _ (roundQuotient_mono (Nat.mul_pos pos (spacing_pos _)) le)
  · -- A power of two lies between the two quotients, and on the grids of both.
    have nonzero : num' / den ≠ 0 := by
      intro zero
      rw [zero, Nat.log2_zero] at less
      exact absurd less (Nat.not_lt_zero _)
    have below : num < 2 ^ (num' / den).log2 * den := (Nat.div_lt_iff_lt_mul pos).mp
      (Nat.lt_log2_self.trans_le (Nat.pow_le_pow_right (by decide) less))
    have above : 2 ^ (num' / den).log2 * den ≤ num' :=
      (Nat.le_div_iff_mul_le pos).mp (Nat.log2_self_le nonzero)
    calc quotientUnits num den ≤ 2 ^ (num' / den).log2 :=
          quotientUnits_le pos (spacing_dvd_pow less.le) below.le
      _ ≤ quotientUnits num' den := le_quotientUnits pos (spacing_dvd_pow le_rfl) above

end Quotient

/-! ## Counts -/

/-- The count that a count of units is rounded to, as if there were no largest double. -/
def roundUnits (units : Nat) : Nat := roundQuotient units (spacing units) * spacing units

theorem quotientUnits_one (units : Nat) : quotientUnits units 1 = roundUnits units := by
  rw [quotientUnits, Nat.div_one, Nat.one_mul, roundUnits]

section Rounded

variable {a b units : Nat}

theorem roundUnits_of_dvd (grid : spacing units ∣ units) : roundUnits units = units := by
  rw [← quotientUnits_one]
  simpa using quotientUnits_mul Nat.one_pos grid

theorem roundUnits_mono (le : a ≤ b) : roundUnits a ≤ roundUnits b := by
  rw [← quotientUnits_one, ← quotientUnits_one]
  exact quotientUnits_mono Nat.one_pos le

/-- The whole part of a rounded number. A tie goes up to a whole number, which is even in steps. -/
theorem roundUnits_div_unitsPerOne (fine : 2 * spacing units ∣ unitsPerOne) :
    roundUnits units / unitsPerOne = (2 * units + spacing units) / (2 * unitsPerOne) := by
  have pos := spacing_pos units
  have one := unitsPerOne_pos
  have near := (two_mul_roundQuotient units pos).2
  obtain ⟨count, steps⟩ := fine
  have low := Nat.div_mul_le_self (2 * units + spacing units) (2 * unitsPerOne)
  have high := Nat.lt_div_mul_add (a := 2 * units + spacing units) (show 0 < 2 * unitsPerOne by omega)
  generalize (2 * units + spacing units) / (2 * unitsPerOne) = q at *
  apply Nat.div_eq_of_lt_le
  · obtain rfl | whole := Nat.eq_zero_or_pos q
    · rw [Nat.zero_mul]
      exact Nat.zero_le _
    · have filled : 0 < count := Nat.pos_of_ne_zero (by rintro rfl; omega)
      obtain ⟨k, last⟩ : ∃ k, q * count = k + 1 :=
        Nat.exists_eq_add_one.mpr (Nat.mul_pos whole filled)
      have reached : 2 * k + 1 < roundQuotient units (spacing units) := by
        apply lt_roundQuotient_of_le pos (by omega)
        have reach : q * (2 * unitsPerOne) = 4 * (k + 1) * spacing units := by
          rw [steps, ← last]
          ring
        linarith
      calc q * unitsPerOne = 2 * (k + 1) * spacing units := by rw [steps, ← last]; ring
        _ ≤ roundUnits units := Nat.mul_le_mul_right _ (by omega)
  · rw [roundUnits]
    linarith

end Rounded

namespace Binary64

theorem ofQuotient_eq (negative : Bool) (num den : Nat) :
    ofQuotient negative num den =
      if h : Representable (quotientUnits num den) then .finite negative (quotientUnits num den) h
      else .infinite negative := rfl

/-- A double that is finite is what its quotient is rounded to. -/
theorem IsFinite.ofQuotient_eq {negative : Bool} {num den : Nat}
    (finite : (ofQuotient negative num den).IsFinite) :
    ∃ h, ofQuotient negative num den = .finite negative (quotientUnits num den) h := by
  rw [Binary64.ofQuotient_eq] at finite ⊢
  split
  · next small => exact ⟨small, rfl⟩
  · next large =>
    rw [dif_neg large] at finite
    obtain ⟨_, _, _, same⟩ := finite
    cases same

theorem IsFinite.ofQuotient_one {negative : Bool} {units : Nat}
    (finite : (ofQuotient negative units 1).IsFinite) :
    ∃ h, ofQuotient negative units 1 = .finite negative (roundUnits units) h := by
  have value := finite.ofQuotient_eq
  rwa [quotientUnits_one] at value

end Binary64

end BuildingWorkflow
