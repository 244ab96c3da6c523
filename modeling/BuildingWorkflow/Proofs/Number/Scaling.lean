import BuildingWorkflow.Number.Binary64
import BuildingWorkflow.Proofs.Number.Numeral
import Mathlib.Tactic.Linarith
import Mathlib.Tactic.Positivity
import Mathlib.Tactic.Ring

/-!
What the rounding of quotients keeps.

A quotient may be written in many ways, with common factors or as a decimal with zeros at the end;
the double it is rounded to is always the same. A quotient that is near enough to a double is
rounded to this double: within the fraction `2 ^ -54` of it, there is no other.
-/
namespace BuildingWorkflow

/-! ## One quotient, many fractions -/

theorem roundQuotient_mul_mul (num den : Nat) {k : Nat} (pos : 0 < k) :
    roundQuotient (num * k) (den * k) = roundQuotient num den := by
  have less (a b : Nat) : 2 * (a * k) < b * k ↔ 2 * a < b := by
    rw [← Nat.mul_assoc, Nat.mul_lt_mul_right pos]
  have more (a b : Nat) : b * k < 2 * (a * k) ↔ b < 2 * a := by
    rw [← Nat.mul_assoc, Nat.mul_lt_mul_right pos]
  simp only [roundQuotient, Nat.mul_div_mul_right _ _ pos, Nat.mul_mod_mul_right, less, more]

namespace Binary64

theorem ofQuotient_mul_mul (negative : Bool) (num den : Nat) {k : Nat} (pos : 0 < k) :
    ofQuotient negative (num * k) (den * k) = ofQuotient negative num den := by
  have steps (grid : Nat) : den * k * grid = den * grid * k := by
    rw [Nat.mul_assoc, Nat.mul_comm k, Nat.mul_assoc]
  simp only [ofQuotient, Nat.mul_div_mul_right _ _ pos, steps, roundQuotient_mul_mul _ _ pos]

/-- Equal quotients are rounded to one double. -/
theorem ofQuotient_congr (negative : Bool) {num den num' den' : Nat} (pos : 0 < den)
    (pos' : 0 < den') (same : num * den' = num' * den) :
    ofQuotient negative num den = ofQuotient negative num' den' := by
  rw [← ofQuotient_mul_mul negative num den pos', same, Nat.mul_comm den,
    ofQuotient_mul_mul negative num' den' pos]

end Binary64

/-! ## Quotients near a double -/

/-- A quotient less than half a step away from a whole number is rounded to it. -/
theorem roundQuotient_eq {num den k : Nat} (above : 2 * num < (2 * k + 1) * den)
    (below : 2 * k * den < 2 * num + den) : roundQuotient num den = k := by
  have pos : 0 < den := Nat.pos_of_ne_zero (by rintro rfl; omega)
  have split := Nat.div_add_mod num den
  have rest := Nat.mod_lt num pos
  unfold roundQuotient
  dsimp only
  generalize num / den = q at *
  generalize num % den = r at *
  have upper : q < k + 1 := by
    by_contra large
    have := Nat.mul_le_mul_left den (Nat.le_of_not_lt large)
    linarith
  have lower : k < q + 2 := by
    by_contra large
    have := Nat.mul_le_mul_left den (Nat.le_of_not_lt large)
    linarith
  obtain rfl | rfl : k = q ∨ k = q + 1 := by omega
  · rw [if_pos (by linarith)]
  · have much : den < 2 * r := by linarith
    rw [if_neg (Nat.not_lt_of_gt much), if_pos much]

/-- A quotient differs from a whole number by less than the fraction `2 ^ -54` of it. -/
def Near (num den units : Nat) : Prop :=
  2 ^ 54 * num < 2 ^ 54 * (units * den) + units * den ∧
    2 ^ 54 * (units * den) < 2 ^ 54 * num + units * den

theorem spacing_pos (units : Nat) : 0 < spacing units := Nat.two_pow_pos _

theorem spacing_dvd_pow {units k : Nat} (h : units.log2 ≤ k) : spacing units ∣ 2 ^ k :=
  Nat.pow_dvd_pow 2 (by omega)

theorem spacing_mul_pow {a : Nat} (many : 2 ^ 52 ≤ a) (k : Nat) :
    spacing (a * 2 ^ k) = spacing a * 2 ^ k := by
  have nonzero : a ≠ 0 := by omega
  have least := (Nat.le_log2 nonzero).mpr many
  have magnitude : (a * 2 ^ k).log2 = a.log2 + k := by
    rw [Nat.log2_eq_iff (by positivity), pow_add, Nat.add_right_comm, pow_add]
    exact ⟨Nat.mul_le_mul_right _ (Nat.log2_self_le nonzero),
      Nat.mul_lt_mul_of_pos_right Nat.lt_log2_self (Nat.two_pow_pos k)⟩
  change 2 ^ ((a * 2 ^ k).log2 - 52) = 2 ^ (a.log2 - 52) * 2 ^ k
  rw [magnitude, ← pow_add]
  congr 1
  omega

theorem pow_log2_succ_le (units : Nat) : 2 ^ (units.log2 + 1) ≤ 2 ^ 53 * spacing units := by
  change _ ≤ 2 ^ 53 * 2 ^ (units.log2 - 52)
  rw [← pow_add]
  exact Nat.pow_le_pow_right (by decide) (by omega)

theorem add_le_of_dvd {a b step : Nat} (left : step ∣ a) (right : step ∣ b) (less : a < b) :
    a + step ≤ b := by
  obtain ⟨m, rfl⟩ := left
  obtain ⟨n, rfl⟩ := right
  have fewer : m < n := lt_of_mul_lt_mul_left less (Nat.zero_le _)
  calc step * m + step = step * (m + 1) := rfl
    _ ≤ step * n := Nat.mul_le_mul_left step fewer

section Near

variable {num den units : Nat}

theorem Near.den_pos (near : Near num den units) : 0 < den :=
  Nat.pos_of_ne_zero (by rintro rfl; simp [Near] at near)

/-- Beyond the next power of two a quotient is a whole step away. -/
theorem Near.lt_pow (near : Near num den units) (h : Representable units) :
    num < 2 ^ (units.log2 + 1) * den := by
  by_contra large
  have next := add_le_of_dvd (Nat.dvd_of_mod_eq_zero h.2) (spacing_dvd_pow (Nat.le_add_right _ 1))
    Nat.lt_log2_self
  have gap := Nat.mul_pos (spacing_pos units) near.den_pos
  have far := Nat.mul_le_mul_right den (pow_log2_succ_le units)
  have apart := Nat.mul_le_mul_right den next
  linarith [near.1]

/-- Only a power of two has quotients near it that are of a lower magnitude. -/
theorem Near.eq_pow (near : Near num den units) (h : Representable units) (pos : 0 < units)
    (below : num < 2 ^ units.log2 * den) : units = 2 ^ units.log2 := by
  by_contra other
  have least := Nat.log2_self_le (Nat.ne_of_gt pos)
  have next := add_le_of_dvd (spacing_dvd_pow le_rfl) (Nat.dvd_of_mod_eq_zero h.2)
    (lt_of_le_of_ne least (Ne.symm other))
  have gap := Nat.mul_pos (spacing_pos units) near.den_pos
  have far := Nat.mul_le_mul_right den (pow_log2_succ_le units)
  have apart := Nat.mul_le_mul_right den next
  have double : 2 ^ (units.log2 + 1) = 2 ^ units.log2 * 2 := pow_succ 2 _
  rw [double] at far
  nlinarith [near.2]

/-- The magnitude of a quotient near a double is that of the double, or the one below. -/
theorem Near.log2_eq (near : Near num den units) (h : Representable units) (pos : 0 < units) :
    (num / den).log2 = units.log2 ∨
      units = 2 ^ units.log2 ∧ (num / den).log2 + 1 = units.log2 := by
  have upper := (Nat.div_lt_iff_lt_mul near.den_pos).mpr (near.lt_pow h)
  by_cases below : num < 2 ^ units.log2 * den
  · have power := near.eq_pow h pos below
    have small := (Nat.div_lt_iff_lt_mul near.den_pos).mpr below
    generalize units.log2 = k at *
    subst power
    cases k with
    | zero => exact .inl (by rw [Nat.lt_one_iff.mp small, Nat.log2_zero])
    | succ k =>
        have half : 2 ^ (k + 1) = 2 ^ k * 2 := pow_succ 2 k
        have large : 2 ^ k * den ≤ num := by
          have := near.2
          rw [half] at this
          linarith
        have lower := (Nat.le_div_iff_mul_le near.den_pos).mpr large
        have nonzero : num / den ≠ 0 := by have := Nat.two_pow_pos k; omega
        exact .inr ⟨rfl, congrArg (· + 1) ((Nat.log2_eq_iff nonzero).mpr ⟨lower, small⟩)⟩
  · have lower := (Nat.le_div_iff_mul_le near.den_pos).mpr (Nat.le_of_not_lt below)
    left
    exact (Nat.log2_eq_iff (by have := Nat.two_pow_pos units.log2; omega)).mpr ⟨lower, upper⟩

/-- So the steps at the quotient reach the double, and do so within the mantissa. -/
theorem Near.steps (near : Near num den units) (h : Representable units) (pos : 0 < units) :
    spacing (num / den) ∣ units ∧ units ≤ 2 ^ 53 * spacing (num / den) := by
  obtain same | ⟨power, lower⟩ := near.log2_eq h pos
  · have equal : spacing (num / den) = spacing units := by rw [spacing, same]; rfl
    rw [equal]
    exact ⟨Nat.dvd_of_mod_eq_zero h.2, (Nat.lt_log2_self.trans_le (pow_log2_succ_le units)).le⟩
  · rw [power, ← lower]
    exact ⟨spacing_dvd_pow (Nat.le_add_right _ 1), pow_log2_succ_le _⟩

end Near

namespace Binary64

/-- A quotient near a double is rounded to this double. -/
theorem ofQuotient_of_near (negative : Bool) {num den units : Nat} (h : Representable units)
    (pos : 0 < units) (near : Near num den units) :
    ofQuotient negative num den = .finite negative units h := by
  obtain ⟨⟨k, count⟩, few⟩ := near.steps h pos
  have step_pos := spacing_pos (num / den)
  have gap := Nat.mul_pos step_pos near.den_pos
  have rounded : roundQuotient num (den * spacing (num / den)) = k := by
    obtain ⟨above, below⟩ := near
    generalize spacing (num / den) = step at *
    subst count
    have fewer : k ≤ 2 ^ 53 :=
      Nat.le_of_mul_le_mul_left (by rwa [Nat.mul_comm (2 ^ 53)] at few) step_pos
    have reach := Nat.mul_le_mul_right (step * den) fewer
    apply roundQuotient_eq <;> linarith
  have whole : k * spacing (num / den) = units := by rw [count, Nat.mul_comm]
  simp only [ofQuotient, rounded, whole, dif_pos h]

/-! ## Decimals -/

/-- Decimals of moderate size are quotients of units. -/
theorem ofDecimal_eq (negative : Bool) {digits : Nat} {exponent : Int} (pos : 0 < digits)
    (few : digits < 2 ^ 64) (low : -400 ≤ exponent) (high : exponent ≤ 380) :
    ofDecimal negative digits exponent =
      ofQuotient negative (digits * 10 ^ exponent.toNat * unitsPerOne)
        (10 ^ (-exponent).toNat) := by
  have size := (Nat.log2_lt (Nat.ne_of_gt pos)).mpr few
  rw [ofDecimal, if_neg (Nat.ne_of_gt pos)]
  dsimp only
  rw [if_neg (by omega), if_neg (by omega)]
  by_cases sign : 0 ≤ exponent
  · have integral : (-exponent).toNat = 0 := by omega
    rw [if_pos sign, integral, pow_zero]
    rfl
  · have fractional : exponent.toNat = 0 := by omega
    rw [if_neg sign, fractional, pow_zero, Nat.mul_one]
    rfl

theorem ofDecimal_zero (negative : Bool) (exponent : Int) :
    ofDecimal negative 0 exponent = .finite negative 0 (by decide) := if_pos rfl

/-- Zeros at the end of the digits may be counted by the exponent instead. -/
theorem ofDecimal_mul_pow (negative : Bool) (digits k : Nat) (exponent : Int)
    (few : digits * 10 ^ k < 2 ^ 64) (low : -400 ≤ exponent) (high : exponent + k ≤ 380) :
    ofDecimal negative (digits * 10 ^ k) exponent = ofDecimal negative digits (exponent + k) := by
  obtain rfl | pos := Nat.eq_zero_or_pos digits
  · rw [Nat.zero_mul, ofDecimal_zero, ofDecimal_zero]
  have fewer : digits < 2 ^ 64 := (Nat.le_mul_of_pos_right _ (by positivity)).trans_lt few
  rw [ofDecimal_eq negative (by positivity) few low (by omega),
    ofDecimal_eq negative pos fewer (by omega) high]
  apply ofQuotient_congr negative (by positivity) (by positivity)
  have powers : 10 ^ k * 10 ^ exponent.toNat * 10 ^ (-(exponent + k)).toNat =
      10 ^ (exponent + k).toNat * 10 ^ (-exponent).toNat := by
    rw [← pow_add, ← pow_add, ← pow_add]
    congr 1
    omega
  calc digits * 10 ^ k * 10 ^ exponent.toNat * unitsPerOne * 10 ^ (-(exponent + k)).toNat
      = digits * unitsPerOne *
          (10 ^ k * 10 ^ exponent.toNat * 10 ^ (-(exponent + k)).toNat) := by ring
    _ = digits * 10 ^ (exponent + k).toNat * unitsPerOne * 10 ^ (-exponent).toNat := by
        rw [powers]
        ring

end Binary64

end BuildingWorkflow
