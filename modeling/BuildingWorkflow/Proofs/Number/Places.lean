import BuildingWorkflow.Proofs.Number.Amount
import BuildingWorkflow.Proofs.Number.Nearest

/-!
Doubles rounded to decimal places.

Rounding to places rounds twice, to the places and then to a double. It keeps the order, and what is
finite stays finite. Doubling loses nothing, so that a double can be compared with half of another
one without a loss.
-/
namespace BuildingWorkflow

theorem Representable.fits {units : Nat} (h : Representable units) : Fits 53 units := by
  have fits := fits_roundUnits units
  rwa [roundUnits_of_dvd (Nat.dvd_of_mod_eq_zero h.2)] at fits

theorem Fits.two_mul {bits n : Nat} (fits : Fits bits n) : Fits bits (2 * n : Nat) := by
  obtain ⟨mantissa, k, less, same⟩ := fits
  refine ⟨mantissa, k + 1, less, ?_⟩
  rw [Nat.cast_mul, same, pow_succ]
  ring

/-! ## Decimal places -/

/-- The count of units that a count of units is rounded to with so many places. -/
def placesUnits (places units : Nat) : Nat :=
  quotientUnits (roundQuotient (units * Nat.pow 10 places) unitsPerOne * unitsPerOne)
    (Nat.pow 10 places)

theorem pow_ten_pos (places : Nat) : 0 < Nat.pow 10 places := Nat.pow_pos (by decide)

theorem placesUnits_mono (places : Nat) {a b : Nat} (le : a ≤ b) :
    placesUnits places a ≤ placesUnits places b := by
  apply quotientUnits_mono (pow_ten_pos places)
  apply Nat.mul_le_mul_right
  exact roundQuotient_mono unitsPerOne_pos (Nat.mul_le_mul_right _ le)

namespace Binary64

theorem two_eq : (2 : Binary64) = .finite false (2 * unitsPerOne) (by decide +kernel) := by
  decide +kernel

/-- The largest double is more than half a place away from the end. -/
theorem isFinite_roundPlaces {negative : Bool} {units : Nat} (h : Representable units)
    (places : Nat) : ((Binary64.finite negative units h).roundPlaces places).IsFinite := by
  have pos := pow_ten_pos places
  have one := unitsPerOne_pos
  apply isFinite_ofQuotient _ pos
  have near := (two_mul_roundQuotient (units * Nat.pow 10 places) one).2
  have room := Nat.mul_le_mul_right (Nat.pow 10 places) h.add_le
  have more := Nat.le_mul_of_pos_right unitsPerOne pos
  rw [Nat.add_mul] at room
  rw [Nat.mul_assoc] at near
  omega

section Amounts

variable {x : Binary64} {units whole : Nat} (amounts : x.Amounts units)

include amounts

theorem Amounts.roundPlaces (places : Nat) :
    (x.roundPlaces places).Amounts (placesUnits places units) := by
  obtain ⟨negative, h, rfl, unsigned⟩ := amounts
  refine amounts_ofQuotient (pow_ten_pos places) (isFinite_roundPlaces h places) fun signed => ?_
  have nothing := roundQuotient_mul_right 0 unitsPerOne_pos
  rw [Nat.zero_mul] at nothing
  rw [unsigned signed, Nat.zero_mul, nothing, Nat.zero_mul]

/-- A part of a finite double is the exact part, rounded once. -/
theorem Amounts.mul_finite (part : units ≤ unitsPerOne) (h : Representable whole) :
    (x * .finite false whole h).Amounts (quotientUnits (units * whole) unitsPerOne) := by
  obtain ⟨negative, h', rfl, unsigned⟩ := amounts
  have product : (.finite negative units h' * .finite false whole h : Binary64) =
      ofQuotient negative (units * whole) unitsPerOne := by
    change ofQuotient (negative != false) (units * whole) unitsPerOne = _
    rw [Bool.bne_false]
  have less : units * whole < endOfUnits * unitsPerOne := by
    have := h.add_le
    have := unitsPerOne_pos
    rw [Nat.mul_comm]
    exact Nat.mul_lt_mul_of_lt_of_le (by omega) part unitsPerOne_pos
  rw [product]
  exact amounts_ofQuotient unitsPerOne_pos (isFinite_ofQuotient _ unitsPerOne_pos less)
    fun signed => by rw [unsigned signed, Nat.zero_mul]

/-- Doubling is exact, or it leaves the range of doubles and with it all finite ones behind. -/
theorem Amounts.two_mul_less (h : Representable whole) :
    (2 * x).less (.finite false whole h) = true ↔ 2 * units < whole := by
  obtain ⟨negative, h', rfl, unsigned⟩ := amounts
  have double : (2 * .finite negative units h' : Binary64) = ofQuotient negative (2 * units) 1 := by
    rw [two_eq]
    change ofQuotient (false != negative) (2 * unitsPerOne * units) unitsPerOne = _
    rw [Bool.false_bne]
    apply ofQuotient_congr negative unitsPerOne_pos Nat.one_pos
    ring
  have grid := h'.fits.two_mul.spacing_dvd
  rw [double, Binary64.ofQuotient_eq]
  simp only [quotientUnits_one, roundUnits_of_dvd grid]
  by_cases small : Representable (2 * units)
  · rw [dif_pos small]
    have sign : negative = true → 2 * units = 0 := fun signed => by rw [unsigned signed]
    simp only [less, signedUnits_eq sign, decide_eq_true_eq]
    exact Int.ofNat_lt
  · have positive : negative = false := by
      cases negative with
      | false => rfl
      | true => exact absurd (by rw [unsigned rfl]; decide) small
    rw [dif_neg small, positive]
    refine iff_of_false (by simp [less]) fun below => small ⟨?_, Nat.mod_eq_zero_of_dvd grid⟩
    exact (log2_mono below.le).trans_lt h.1

end Amounts

end Binary64

end BuildingWorkflow
