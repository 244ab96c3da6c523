import BuildingWorkflow.Proofs.Number.Shortest
import BuildingWorkflow.Value.Number

/-!
Where doubles end.

A quotient is rounded to a finite double exactly when it lies below the middle between the largest
double and the power of two that would follow. For whole numbers this is all that can go wrong when
they are made floats. Shares of a finite double, and what it is divided by ten, stay finite, and
its whole part is a float again.
-/
namespace BuildingWorkflow

/-! ## Rounding at the end -/

/-- The count of units from which on a quotient is infinite. -/
def endOfUnits : Nat := (2 ^ 54 - 1) * 2 ^ 2044

theorem roundQuotient_le_of_lt {num den m : Nat} (pos : 0 < den)
    (less : 2 * num < (2 * m + 1) * den) : roundQuotient num den ≤ m := by
  have rounded := (two_mul_roundQuotient num pos).2
  have fewer : 2 * roundQuotient num den * den < (2 * m + 2) * den := by linarith
  have := Nat.lt_of_mul_lt_mul_right fewer
  omega

/-- A tie goes from an odd number to the next one. -/
theorem lt_roundQuotient_of_le {num den m : Nat} (pos : 0 < den) (odd : m % 2 = 1)
    (le : (2 * m + 1) * den ≤ 2 * num) : m < roundQuotient num den := by
  by_contra few
  have split := Nat.div_add_mod num den
  have rest := Nat.mod_lt num pos
  have floor := le_roundQuotient num den
  unfold roundQuotient at few floor
  dsimp only at few floor
  generalize num / den = q at *
  generalize num % den = r at *
  have whole : q = m := by
    have more : (2 * m + 1) * den < (2 * q + 2) * den := by linarith
    have := Nat.lt_of_mul_lt_mul_right more
    omega
  subst whole
  have half : den ≤ 2 * r := by linarith
  rw [if_neg (Nat.not_lt_of_ge half), if_neg (by omega : ¬ q % 2 = 0), ite_self] at few
  omega

theorem log2_lt_of_lt_pow {n k : Nat} (less : n < 2 ^ k) (pos : 0 < k) : n.log2 < k := by
  obtain rfl | nonzero := eq_or_ne n 0
  · rwa [Nat.log2_zero]
  · exact (Nat.log2_lt nonzero).mpr less

/-- A mantissa of 53 bits, or the power of two after all of them, is representable in place. -/
theorem mul_pow_mod_spacing {mantissa k : Nat} (few : mantissa ≤ 2 ^ 53) :
    mantissa * 2 ^ k % spacing (mantissa * 2 ^ k) = 0 := by
  apply Nat.mod_eq_zero_of_dvd
  obtain less | rfl := Nat.lt_or_eq_of_le few
  · have below : mantissa * 2 ^ k < 2 ^ (53 + k) := by
      rw [pow_add]
      exact Nat.mul_lt_mul_of_pos_right less (Nat.two_pow_pos k)
    have magnitude := log2_lt_of_lt_pow below (by omega)
    exact Nat.dvd_trans (Nat.pow_dvd_pow 2 (by omega)) (Nat.dvd_mul_left _ _)
  · rw [← pow_add]
    exact spacing_dvd_pow Nat.log2_two_pow.le

/-- The mantissa of a rounded quotient. -/
theorem roundQuotient_spacing_le (num den : Nat) :
    roundQuotient num (den * spacing (num / den)) ≤ 2 ^ 53 := by
  have rounded := roundQuotient_le num (den * spacing (num / den))
  have size := Nat.lt_log2_self.trans_le (pow_log2_succ_le (num / den))
  have floor : num / (den * spacing (num / den)) < 2 ^ 53 := by
    rw [← Nat.div_div_eq_div_mul]
    exact (Nat.div_lt_iff_lt_mul (spacing_pos _)).mpr size
  omega

/-- The end in half steps of the largest doubles. -/
theorem endOfUnits_eq :
    ∃ k, 2098 = k + 54 ∧ unitsPerOne ≤ 2 ^ k ∧ endOfUnits = (2 ^ 54 - 1) * 2 ^ k :=
  ⟨2044, rfl, by decide +kernel, rfl⟩

section Quotient

variable {num den : Nat} (pos : 0 < den)

include pos

theorem representable_of_lt (less : num < endOfUnits * den) :
    Representable (roundQuotient num (den * spacing (num / den)) * spacing (num / den)) := by
  obtain ⟨k, bits, -, ends⟩ := endOfUnits_eq
  have mantissa := roundQuotient_spacing_le num den
  have quotient := (Nat.div_lt_iff_lt_mul pos).mpr less
  have top : endOfUnits < 2 ^ (k + 54) := by
    rw [ends, pow_add, Nat.mul_comm]
    exact Nat.mul_lt_mul_of_pos_left (by decide) (Nat.two_pow_pos k)
  have magnitude := log2_lt_of_lt_pow (quotient.trans top) (by omega)
  have step : spacing (num / den) = 2 ^ ((num / den).log2 - 52) := rfl
  have small : (num / den).log2 - 52 ≤ k + 1 := by omega
  rw [step] at mantissa ⊢
  generalize (num / den).log2 - 52 = j at *
  refine ⟨?_, mul_pow_mod_spacing mantissa⟩
  rw [bits]
  apply log2_lt_of_lt_pow _ (by omega)
  rw [show k + 54 = 53 + (k + 1) by omega, pow_add 2 53]
  obtain early | rfl := Nat.lt_or_eq_of_le small
  · have steps := Nat.pow_lt_pow_right (show 1 < 2 by decide) early
    exact Nat.mul_lt_mul_of_le_of_lt mantissa steps (Nat.two_pow_pos 53)
  · have short : roundQuotient num (den * 2 ^ (k + 1)) ≤ 2 ^ 53 - 1 := by
      apply roundQuotient_le_of_lt (Nat.mul_pos pos (Nat.two_pow_pos (k + 1)))
      rw [ends] at less
      have odd : 2 * (2 ^ 53 - 1) + 1 = 2 ^ 54 - 1 := by decide
      rw [odd, pow_succ 2 k]
      generalize 2 ^ 54 - 1 = c at *
      linarith
    exact Nat.mul_lt_mul_of_pos_right (short.trans_lt (by decide)) (Nat.two_pow_pos (k + 1))

theorem not_representable_of_le (le : endOfUnits * den ≤ num) :
    ¬ Representable (roundQuotient num (den * spacing (num / den)) * spacing (num / den)) := by
  obtain ⟨k, bits, -, ends⟩ := endOfUnits_eq
  have quotient := (Nat.le_div_iff_mul_le pos).mpr le
  have power : 2 ^ (k + 53) ≤ num / den := by
    refine le_trans ?_ quotient
    rw [ends, pow_add, Nat.mul_comm]
    exact Nat.mul_le_mul_right (2 ^ k) (by decide)
  have nonzero : num / den ≠ 0 := by have := Nat.two_pow_pos (k + 53); omega
  have magnitude := (Nat.le_log2 nonzero).mpr power
  have step : spacing (num / den) = 2 ^ ((num / den).log2 - 52) := rfl
  have reached : 2 ^ (k + 54) ≤
      roundQuotient num (den * spacing (num / den)) * spacing (num / den) := by
    obtain beyond | last := Nat.lt_or_eq_of_le magnitude
    · have floor := le_roundQuotient num (den * spacing (num / den))
      rw [← Nat.div_div_eq_div_mul] at floor
      have bits : 2 ^ 52 * spacing (num / den) = 2 ^ (num / den).log2 := by
        rw [step, ← pow_add, Nat.add_sub_cancel' (by omega)]
      have mantissa : 2 ^ 52 ≤ num / den / spacing (num / den) :=
        (Nat.le_div_iff_mul_le (spacing_pos _)).mpr (bits.le.trans (Nat.log2_self_le nonzero))
      calc 2 ^ (k + 54) ≤ 2 ^ (num / den).log2 := Nat.pow_le_pow_right (by decide) beyond
        _ = 2 ^ 52 * spacing (num / den) := bits.symm
        _ ≤ _ := Nat.mul_le_mul_right _ (mantissa.trans floor)
    · rw [step, ← last, show k + 53 - 52 = k + 1 by omega, show k + 54 = 53 + (k + 1) by omega,
        pow_add 2 53]
      have tie : 2 ^ 53 - 1 < roundQuotient num (den * 2 ^ (k + 1)) := by
        apply lt_roundQuotient_of_le (Nat.mul_pos pos (Nat.two_pow_pos (k + 1))) (by decide)
        have odd : 2 * (2 ^ 53 - 1) + 1 = 2 ^ 54 - 1 := by decide
        rw [ends] at le
        rw [odd, pow_succ 2 k]
        generalize 2 ^ 54 - 1 = c at *
        linarith
      exact Nat.mul_le_mul_right _ (by omega)
  rintro ⟨bounded, -⟩
  rw [bits] at bounded
  have positive := (Nat.two_pow_pos (k + 54)).trans_le reached
  exact absurd reached (Nat.not_le_of_gt ((Nat.log2_lt (Nat.ne_of_gt positive)).mp bounded))

end Quotient

/-- The largest double is more than one away from the end. -/
theorem Representable.add_le {units : Nat} (h : Representable units) :
    units + unitsPerOne ≤ endOfUnits := by
  obtain ⟨k, bits, one, ends⟩ := endOfUnits_eq
  have bounded := h.1
  rw [bits] at bounded
  suffices units + 2 ^ k ≤ endOfUnits by omega
  rw [ends]
  obtain last | early : units.log2 = k + 53 ∨ units.log2 < k + 53 := by omega
  · have step : spacing units = 2 ^ (k + 1) := by
      change 2 ^ (units.log2 - 52) = _
      rw [last, show k + 53 - 52 = k + 1 by omega]
    have next := add_le_of_dvd (Nat.dvd_of_mod_eq_zero h.2) (spacing_dvd_pow (Nat.le_add_right _ 1))
      Nat.lt_log2_self
    rw [step, last, show k + 53 + 1 = 54 + k by omega, pow_add 2 54, pow_succ 2 k] at next
    omega
  · have below : units < 2 ^ (k + 53) :=
      Nat.lt_log2_self.trans_le (Nat.pow_le_pow_right (by decide) early)
    rw [Nat.add_comm k, pow_add 2 53] at below
    omega

/-! ## Whole numbers -/

/-- The whole number from which on none is a float. -/
def endOfWhole : Nat := (2 ^ 54 - 1) * 2 ^ 970

theorem endOfUnits_eq_mul : endOfUnits = endOfWhole * unitsPerOne := by decide +kernel

namespace Binary64

def IsFinite (x : Binary64) : Prop := ∃ negative units h, x = .finite negative units h

theorem isFinite_ofQuotient (negative : Bool) {num den : Nat} (pos : 0 < den)
    (less : num < endOfUnits * den) : (ofQuotient negative num den).IsFinite :=
  ⟨_, _, _, dif_pos (representable_of_lt pos less)⟩

theorem ofQuotient_eq_infinite (negative : Bool) {num den : Nat} (pos : 0 < den)
    (le : endOfUnits * den ≤ num) : ofQuotient negative num den = .infinite negative :=
  dif_neg (not_representable_of_le pos le)

theorem isFinite_ofInt {n : Int} (less : n.natAbs < endOfWhole) : (ofInt n).IsFinite := by
  apply isFinite_ofQuotient _ Nat.one_pos
  rw [Nat.mul_one, endOfUnits_eq_mul]
  exact Nat.mul_lt_mul_of_pos_right less unitsPerOne_pos

theorem ofInt_eq_infinite {n : Int} (le : endOfWhole ≤ n.natAbs) :
    ofInt n = .infinite (n < 0) := by
  apply ofQuotient_eq_infinite _ Nat.one_pos
  rw [Nat.mul_one, endOfUnits_eq_mul]
  exact Nat.mul_le_mul_right _ le

end Binary64

theorem intToFloat_of_lt {n : Int} (less : n.natAbs < endOfWhole) :
    intToFloat n = .ok (Binary64.ofInt n) := by
  obtain ⟨negative, units, h, finite⟩ := Binary64.isFinite_ofInt less
  rw [intToFloat, finite]
  rfl

theorem intToFloat_of_le {n : Int} (le : endOfWhole ≤ n.natAbs) :
    intToFloat n = .error .integerTooLarge := by
  rw [intToFloat, Binary64.ofInt_eq_infinite le]
  rfl

theorem intToFloat_eq_error_iff {n : Int} {fault : Fault} :
    intToFloat n = .error fault ↔ endOfWhole ≤ n.natAbs ∧ fault = .integerTooLarge := by
  obtain less | le := Nat.lt_or_ge n.natAbs endOfWhole
  · rw [intToFloat_of_lt less]
    exact ⟨nofun, fun large => absurd large.1 (Nat.not_le_of_gt less)⟩
  · rw [intToFloat_of_le le]
    exact ⟨fun same => ⟨le, (Except.error.inj same).symm⟩, fun large => large.2 ▸ rfl⟩

theorem isFinite_of_intToFloat {n : Int} {x : Binary64} (h : intToFloat n = .ok x) :
    x.IsFinite := by
  obtain less | le := Nat.lt_or_ge n.natAbs endOfWhole
  · rw [intToFloat_of_lt less] at h
    exact Except.ok.inj h ▸ Binary64.isFinite_ofInt less
  · cases h.symm.trans (intToFloat_of_le le)

theorem wholeFloor_eq_error_iff {x : Binary64} {fault : Fault} :
    wholeFloor x = .error fault ↔
      (∃ negative, x = .infinite negative) ∧ fault = .wholeOfInfinity ∨
        (∃ label, x = .nan label) ∧ fault = .wholeOfNan := by
  cases x with
  | nan label =>
      rw [show wholeFloor (.nan label) = .error .wholeOfNan from rfl]
      simp [eq_comm]
  | infinite negative =>
      rw [show wholeFloor (.infinite negative) = .error .wholeOfInfinity from rfl]
      simp [eq_comm]
  | finite negative units h => exact ⟨nofun, by simp⟩

/-- The whole part of a finite double. -/
theorem Binary64.IsFinite.exists_wholeFloor {x : Binary64} (finite : x.IsFinite) :
    ∃ n, wholeFloor x = .ok n ∧ n.natAbs < endOfWhole := by
  obtain ⟨negative, units, h, rfl⟩ := finite
  refine ⟨_, rfl, ?_⟩
  have bound := h.add_le
  rw [endOfUnits_eq_mul] at bound
  have pos := unitsPerOne_pos
  generalize unitsPerOne = one at *
  generalize endOfWhole = last at *
  have least : -(units : Int) ≤ signedUnits negative units := by
    cases negative <;> simp [signedUnits]
  have most : signedUnits negative units ≤ units := by
    cases negative <;> simp [signedUnits]
  generalize signedUnits negative units = signed at *
  rw [Int.fdiv_eq_ediv_of_nonneg _ (Int.natCast_nonneg one)]
  have below := Int.ediv_mul_le signed (show (one : Int) ≠ 0 by omega)
  have above := Int.lt_ediv_add_one_mul_self signed (show 0 < (one : Int) by omega)
  generalize signed / one = n at *
  zify at bound
  have upper : n * one < last * one := by linarith
  have lower : (1 - last : Int) * one < (n + 1) * one := by linarith
  have := lt_of_mul_lt_mul_right upper (by omega)
  have := lt_of_mul_lt_mul_right lower (by omega)
  omega

/-! ## Shares -/

namespace Binary64

/-- Finite and at most one in size. -/
def IsShare (x : Binary64) : Prop :=
  ∃ negative units h, x = .finite negative units h ∧ units ≤ unitsPerOne

instance (x : Binary64) : Decidable x.IsShare :=
  match x with
  | .finite negative units h =>
      decidable_of_iff (units ≤ unitsPerOne) ⟨fun le => ⟨negative, units, h, rfl, le⟩,
        fun ⟨_, _, _, same, le⟩ => by cases same; exact le⟩
  | .nan _ | .infinite _ => isFalse nofun

theorem IsFinite.mul_share {x share : Binary64} (finite : x.IsFinite) (part : share.IsShare) :
    (x * share).IsFinite := by
  obtain ⟨negative, units, h, rfl⟩ := finite
  obtain ⟨negative', units', h', rfl, le⟩ := part
  apply isFinite_ofQuotient _ unitsPerOne_pos
  have less : units < endOfUnits := by
    have := h.add_le
    have := unitsPerOne_pos
    omega
  exact Nat.mul_lt_mul_of_lt_of_le less le unitsPerOne_pos

/-- What is divided by one or more stays finite. -/
theorem IsFinite.div {x : Binary64} (finite : x.IsFinite) (negative : Bool) {units : Nat}
    (h : Representable units) (large : unitsPerOne ≤ units) :
    (x / .finite negative units h).IsFinite := by
  obtain ⟨negative', units', h', rfl⟩ := finite
  have one := unitsPerOne_pos
  have less : units' < endOfUnits := by
    have := h'.add_le
    omega
  have quotient : (.finite negative' units' h' / .finite negative units h : Binary64) =
      ofQuotient (negative' != negative) (units' * unitsPerOne) units :=
    if_neg (by omega)
  rw [quotient]
  exact isFinite_ofQuotient _ (by omega) (Nat.mul_lt_mul_of_lt_of_le less large
    (one.trans_le large))

theorem ofQuotient_zero (negative : Bool) (den : Nat) :
    ofQuotient negative 0 den = .finite negative 0 (by decide) := by
  have rounded : roundQuotient 0 (den * spacing (0 / den)) * spacing (0 / den) = 0 := by
    simp [roundQuotient]
  simp only [ofQuotient, rounded]
  exact dif_pos (by decide)

end Binary64

end BuildingWorkflow
