import BuildingWorkflow.Proofs.Number.Amount
import BuildingWorkflow.Random.Source

/-!
Random numbers in range.

A source is in range when its indices lie below their bounds, and its fractions below one. The
generator is in range from every state, and so is every stream of fractions.
-/
namespace BuildingWorkflow

/-! ## Fractions -/

/-- The units between the largest fractions. -/
def fractionStep : Nat := Nat.pow 2 1021

theorem exists_fractionStep_eq : ∃ k, fractionStep = 2 ^ k := ⟨1021, by decide +kernel⟩

theorem fractionStep_pos : 0 < fractionStep := by decide +kernel

theorem unitsPerOne_eq_steps : unitsPerOne = 2 ^ 53 * fractionStep := by decide +kernel

/-- No double lies between one and a step before it. -/
theorem Representable.le_of_lt_one {units : Nat} (h : Representable units)
    (less : units < unitsPerOne) : units ≤ (2 ^ 53 - 1) * fractionStep := by
  obtain ⟨k, power⟩ := exists_fractionStep_eq
  rw [unitsPerOne_eq_steps, power] at less
  rw [power]
  obtain fine | coarse := Nat.lt_or_ge units.log2 (k + 52)
  · have below : units < 2 ^ (k + 52) :=
      Nat.lt_log2_self.trans_le (Nat.pow_le_pow_right (by decide) fine)
    rw [Nat.add_comm, pow_add] at below
    omega
  · have steps : 2 ^ k ∣ units :=
      (Nat.pow_dvd_pow 2 (by omega)).trans (Nat.dvd_of_mod_eq_zero h.2)
    have next := add_le_of_dvd steps (Nat.dvd_mul_left (2 ^ k) (2 ^ 53)) less
    omega

namespace Binary64

/-- From zero to one, one excluded. -/
def IsFraction (x : Binary64) : Prop := atMost 0 x ∧ x.less 1

instance (x : Binary64) : Decidable x.IsFraction := inferInstanceAs (Decidable (_ ∧ _))

def largestFraction : Binary64 := .finite false ((2 ^ 53 - 1) * fractionStep) (by decide +kernel)

theorem largest_le_unitsPerOne : (2 ^ 53 - 1) * fractionStep ≤ unitsPerOne := by decide +kernel

theorem isFraction_largestFraction : largestFraction.IsFraction := by decide +kernel

theorem IsFraction.exists_amounts {x : Binary64} (fraction : x.IsFraction) :
    ∃ units, x.Amounts units ∧ units ≤ (2 ^ 53 - 1) * fractionStep := by
  obtain ⟨from_zero, below⟩ := fraction
  obtain rfl | ⟨units, amounts⟩ := cases_of_atMost_zero from_zero
  · rw [one_eq] at below
    cases below
  · exact ⟨units, amounts, amounts.representable.le_of_lt_one (amounts.less_one.mp below)⟩

/-- The bits of a mantissa make a fraction. -/
theorem isFraction_ofQuotient {bits : Nat} (few : bits < 2 ^ 53) :
    (ofQuotient false (bits * unitsPerOne) (2 ^ 53)).IsFraction := by
  have finite : (ofQuotient false (bits * unitsPerOne) (2 ^ 53)).IsFinite := by
    have room := (show Representable 0 by decide).add_le
    rw [Nat.zero_add] at room
    apply isFinite_ofQuotient _ (Nat.two_pow_pos 53)
    rw [Nat.mul_comm endOfUnits]
    exact Nat.mul_lt_mul_of_lt_of_le few room (unitsPerOne_pos.trans_le room)
  have steps : quotientUnits (bits * unitsPerOne) (2 ^ 53) = bits * fractionStep := by
    obtain ⟨k, power⟩ := exists_fractionStep_eq
    have whole : bits * unitsPerOne = bits * fractionStep * 2 ^ 53 := by
      rw [unitsPerOne_eq_steps]
      ring
    rw [whole, power]
    exact quotientUnits_mul (Nat.two_pow_pos 53)
      (Nat.dvd_of_mod_eq_zero (mul_pow_mod_spacing few.le))
  have amounts := amounts_ofQuotient (Nat.two_pow_pos 53) finite nofun
  refine ⟨amounts.atMost_zero, amounts.less_one.mpr ?_⟩
  rw [steps, unitsPerOne_eq_steps]
  exact Nat.mul_lt_mul_of_pos_right few fractionStep_pos

end Binary64

/-! ## Sources -/

namespace RandomSource

/-- All that is drawn is in range. -/
structure InRange {σ : Type} (source : RandomSource σ) : Prop where
  index : ∀ {bound : Nat} (s : σ), 0 < bound → (source.index bound s).1 < bound
  fraction : ∀ s, (source.fraction s).1.IsFraction

/-- The source that always draws the first index, and goes through a stream of fractions. -/
def ofStream (fractions : Nat → Binary64) : RandomSource Nat where
  index _ n := (0, n)
  fraction n := (fractions n, n + 1)

theorem inRange_ofStream {fractions : Nat → Binary64} (all : ∀ n, (fractions n).IsFraction) :
    (ofStream fractions).InRange where
  index _ pos := pos
  fraction := all

end RandomSource

namespace Twister

theorem drawBelow_lt {bound : Nat} (pos : 0 < bound) (draws : Nat) (s : State) :
    (drawBelow bound draws s).1 < bound := by
  induction draws generalizing s with
  | zero => exact pos
  | succ draws ih =>
      simp only [drawBelow]
      split
      · next small => exact small
      · exact ih _

theorem bits_lt (a b : UInt32) : ((a.toNat >>> 5) <<< 26) + (b.toNat >>> 6) < 2 ^ 53 := by
  have high := a.toNat_lt
  have low := b.toNat_lt
  simp only [Nat.shiftRight_eq_div_pow, Nat.shiftLeft_eq]
  omega

theorem isFraction_drawFraction (s : State) : (drawFraction s).1.IsFraction :=
  Binary64.isFraction_ofQuotient (bits_lt _ _)

end Twister

theorem inRange_twister : twister.InRange where
  index s pos := Twister.drawBelow_lt pos 4096 s
  fraction := Twister.isFraction_drawFraction

end BuildingWorkflow
