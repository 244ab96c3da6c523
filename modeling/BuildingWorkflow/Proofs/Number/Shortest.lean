import BuildingWorkflow.Number.Shortest
import BuildingWorkflow.Proofs.Number.Scaling

/-!
The shortest decimal of a double reads back as this double.

The leading power of ten tells how many steps of a smaller power a count of units has. With
seventeen digits a step is less than the fraction `10 ^ -16` of the double, so that the nearest
decimal is near enough to be rounded to it: the search among fewer digits need not succeed before,
and cannot fail there.
-/
namespace BuildingWorkflow

section Spans

variable {units : Nat} {exponent : Int}

theorem inSteps_eq (units : Nat) (exponent : Int) :
    inSteps units exponent =
      (units * 10 ^ (-exponent).toNat, unitsPerOne * 10 ^ exponent.toNat) := by
  by_cases sign : 0 ≤ exponent
  · have integral : (-exponent).toNat = 0 := by omega
    rw [inSteps, if_pos sign, integral, pow_zero, Nat.mul_one]
    rfl
  · have fractional : exponent.toNat = 0 := by omega
    rw [inSteps, if_neg sign, fractional, pow_zero, Nat.mul_one]
    rfl

theorem unitsPerOne_pos : 0 < unitsPerOne := by decide +kernel

theorem inSteps_snd_pos (units : Nat) (exponent : Int) : 0 < (inSteps units exponent).2 := by
  rw [inSteps_eq]
  exact Nat.mul_pos unitsPerOne_pos (by positivity)

/-- A count of units has a leading digit `k` places above the steps of `10 ^ exponent`. -/
def Spans (units : Nat) (exponent : Int) (k : Nat) : Prop :=
  10 ^ k * (inSteps units exponent).2 ≤ (inSteps units exponent).1 ∧
    (inSteps units exponent).1 < 10 ^ (k + 1) * (inSteps units exponent).2

theorem spans_leadingPower (pos : 0 < units) : Spans units (leadingPower units) 0 := by
  have unit_pos := unitsPerOne_pos
  simp only [Spans, inSteps_eq, leadingPower, numeralLength, zero_add, pow_zero, pow_one]
  by_cases large : unitsPerOne ≤ units
  · have whole : 0 < units / unitsPerOne := Nat.div_pos large unit_pos
    have lower := (Nat.le_div_iff_mul_le unit_pos).mp (pow_length_numeral_le whole)
    have upper := (Nat.div_lt_iff_lt_mul unit_pos).mp
      (lt_pow_length_numeral (units / unitsPerOne))
    rw [if_pos large, if_neg (Nat.ne_of_gt whole)]
    cases size : (numeral (units / unitsPerOne)).length with
    | zero => exact absurd size (Nat.ne_of_gt (length_numeral_pos _))
    | succ k =>
        rw [size] at lower upper
        have up : ((k + 1 : Nat) - 1 : Int).toNat = k := by omega
        have down : (-((k + 1 : Nat) - 1 : Int)).toNat = 0 := by omega
        rw [up, down, pow_zero]
        rw [Nat.add_sub_cancel] at lower
        rw [pow_succ] at upper
        constructor <;> linarith
  · have part : 0 < (unitsPerOne - 1) / units := Nat.div_pos (by omega) pos
    have lower := (Nat.le_div_iff_mul_le pos).mp (pow_length_numeral_le part)
    have upper := (Nat.div_lt_iff_lt_mul pos).mp
      (lt_pow_length_numeral ((unitsPerOne - 1) / units))
    rw [if_neg large, if_neg (Nat.ne_of_gt part)]
    cases size : (numeral ((unitsPerOne - 1) / units)).length with
    | zero => exact absurd size (Nat.ne_of_gt (length_numeral_pos _))
    | succ k =>
        rw [size] at lower upper
        have up : (-((k + 1 : Nat) : Int)).toNat = 0 := by omega
        have down : (-(-((k + 1 : Nat) : Int))).toNat = k + 1 := by omega
        rw [up, down, pow_zero]
        rw [Nat.add_sub_cancel] at lower
        have above : unitsPerOne ≤ 10 ^ (k + 1) * units := by omega
        have below : 10 ^ k * units < unitsPerOne := by omega
        rw [pow_succ] at above ⊢
        constructor <;> linarith

/-- In steps that are finer by `j` powers of ten the leading digit stands `j` places higher. -/
theorem Spans.finer {k : Nat} (spans : Spans units exponent k) (j : Nat) :
    Spans units (exponent - j) (k + j) := by
  obtain ⟨lower, upper⟩ := spans
  have coarse := inSteps_snd_pos units exponent
  have rescaled : (inSteps units (exponent - j)).1 * (inSteps units exponent).2 =
      (inSteps units exponent).1 * 10 ^ j * (inSteps units (exponent - j)).2 := by
    simp only [inSteps_eq]
    have powers : 10 ^ (-(exponent - j)).toNat * 10 ^ exponent.toNat =
        10 ^ (-exponent).toNat * 10 ^ j * 10 ^ (exponent - j).toNat := by
      rw [← pow_add, ← pow_add, ← pow_add]
      congr 1
      omega
    calc units * 10 ^ (-(exponent - j)).toNat * (unitsPerOne * 10 ^ exponent.toNat)
        = units * unitsPerOne * (10 ^ (-(exponent - j)).toNat * 10 ^ exponent.toNat) := by ring
      _ = units * 10 ^ (-exponent).toNat * 10 ^ j *
            (unitsPerOne * 10 ^ (exponent - j).toNat) := by
          rw [powers]
          ring
  have fine := Nat.mul_pos (Nat.pow_pos (n := j) (Nat.succ_pos 9))
    (inSteps_snd_pos units (exponent - j))
  unfold Spans
  generalize (inSteps units (exponent - j)).1 = num at *
  generalize (inSteps units (exponent - j)).2 = den at *
  constructor
  · apply Nat.le_of_mul_le_mul_right _ coarse
    rw [rescaled, pow_add]
    calc 10 ^ k * 10 ^ j * den * (inSteps units exponent).2
        = 10 ^ k * (inSteps units exponent).2 * (10 ^ j * den) := by ring
      _ ≤ (inSteps units exponent).1 * (10 ^ j * den) := Nat.mul_le_mul_right _ lower
      _ = (inSteps units exponent).1 * 10 ^ j * den := by ring
  · apply Nat.lt_of_mul_lt_mul_right (a := (inSteps units exponent).2)
    rw [rescaled]
    calc (inSteps units exponent).1 * 10 ^ j * den
        = (inSteps units exponent).1 * (10 ^ j * den) := by ring
      _ < 10 ^ (k + 1) * (inSteps units exponent).2 * (10 ^ j * den) :=
          Nat.mul_lt_mul_of_pos_right upper fine
      _ = 10 ^ (k + j + 1) * den * (inSteps units exponent).2 := by ring

theorem two_mul_roundQuotient {den : Nat} (num : Nat) (pos : 0 < den) :
    2 * num ≤ (2 * roundQuotient num den + 1) * den ∧
      2 * roundQuotient num den * den ≤ 2 * num + den := by
  have split := Nat.div_add_mod num den
  have rest := Nat.mod_lt num pos
  unfold roundQuotient
  dsimp only
  generalize num / den = q at *
  generalize num % den = r at *
  split_ifs <;> constructor <;> linarith

/-- With seventeen digits the nearest decimal differs from a count of units by less than the
fraction `10 ^ -16`. -/
theorem Spans.near (spans : Spans units exponent 16) :
    Near (roundQuotient (inSteps units exponent).1 (inSteps units exponent).2 *
      10 ^ exponent.toNat * unitsPerOne) (10 ^ (-exponent).toNat) units := by
  have coarse := inSteps_snd_pos units exponent
  have rounded := two_mul_roundQuotient (inSteps units exponent).1 coarse
  obtain ⟨lower, -⟩ := spans
  generalize roundQuotient (inSteps units exponent).1 (inSteps units exponent).2 = digits at *
  rw [inSteps_eq] at *
  dsimp only at *
  constructor <;> linarith

theorem Spans.digits_le {k d : Nat} (spans : Spans units exponent k)
    (le : d ≤ (inSteps units exponent).1 / (inSteps units exponent).2 + 1) :
    d ≤ 10 ^ (k + 1) :=
  le.trans ((Nat.div_lt_iff_lt_mul (inSteps_snd_pos units exponent)).mpr spans.2)

/-! ## The search -/

theorem digits_pos_of_readsBack {d : Decimal} (pos : 0 < units) (h : readsBack units d = true) :
    0 < d.digits := by
  apply Nat.pos_of_ne_zero
  intro zero
  rw [readsBack, zero, Binary64.ofDecimal_zero, beq_iff_eq] at h
  omega

theorem readsBack_of_spans (rep : Representable units) (pos : 0 < units)
    (spans : Spans units exponent 16) (low : -400 ≤ exponent) (high : exponent ≤ 380) :
    readsBack units
      ⟨roundQuotient (inSteps units exponent).1 (inSteps units exponent).2, exponent⟩ = true := by
  have many : 0 < roundQuotient (inSteps units exponent).1 (inSteps units exponent).2 := by
    have lower := (Nat.le_div_iff_mul_le (inSteps_snd_pos units exponent)).mpr spans.1
    have above := le_roundQuotient (inSteps units exponent).1 (inSteps units exponent).2
    omega
  have few := spans.digits_le (roundQuotient_le _ _)
  rw [readsBack, Binary64.ofDecimal_eq false many (by omega) low high,
    Binary64.ofQuotient_of_near false rep pos spans.near]
  exact beq_self_eq_true units

theorem nearestReadingBack?_spec {d : Decimal}
    (found : nearestReadingBack? units exponent = some d) :
    readsBack units d = true ∧ d.exponent = exponent ∧
      d.digits ≤ (inSteps units exponent).1 / (inSteps units exponent).2 + 1 := by
  have rounded := roundQuotient_le (inSteps units exponent).1 (inSteps units exponent).2
  unfold nearestReadingBack? at found
  dsimp only at found
  split_ifs at found with nearest below above <;> cases found
  · exact ⟨nearest, rfl, rounded⟩
  · exact ⟨below, rfl, Nat.le_succ _⟩
  · exact ⟨above, rfl, le_rfl⟩

theorem exponent_lt_of_mul_pow_lt {factor bound k e : Nat} (reached : bound ≤ factor * 10 ^ k)
    (less : factor * 10 ^ e < bound) : e < k := by
  by_contra more
  have grown := Nat.pow_le_pow_right (Nat.succ_pos 9) (Nat.le_of_not_lt more)
  exact absurd (reached.trans (Nat.mul_le_mul_left factor grown)) (Nat.not_le_of_gt less)

theorem leadingPower_bounds (rep : Representable units) (pos : 0 < units) :
    -324 ≤ leadingPower units ∧ leadingPower units ≤ 308 := by
  obtain ⟨lower, upper⟩ := spans_leadingPower pos
  rw [inSteps_eq] at lower upper
  dsimp only at lower upper
  generalize leadingPower units = lead at *
  constructor
  · by_contra small
    have fractional : lead.toNat = 0 := by omega
    rw [fractional] at upper
    have less : 1 * 10 ^ (-lead).toNat < 10 ^ (0 + 1) * (unitsPerOne * 10 ^ 0) :=
      (Nat.mul_le_mul_right _ pos).trans_lt upper
    have := exponent_lt_of_mul_pow_lt (k := 325) (by decide +kernel) less
    omega
  · by_contra large
    have integral : (-lead).toNat = 0 := by omega
    rw [integral, pow_zero, Nat.one_mul, Nat.mul_one] at lower
    have less := lower.trans_lt ((Nat.log2_lt (Nat.ne_of_gt pos)).mp rep.1)
    have := exponent_lt_of_mul_pow_lt (k := 309) (by decide +kernel) less
    omega

/-- The search for the shortest decimal succeeds, with seventeen digits at the latest. -/
theorem shortest_found (rep : Representable units) (pos : 0 < units) :
    ∃ extra < 17, nearestReadingBack? units (leadingPower units - (extra : Nat)) =
      some (shortest units) := by
  obtain ⟨low, high⟩ := leadingPower_bounds rep pos
  have finest := (spans_leadingPower pos).finer 16
  have last := readsBack_of_spans rep pos finest (by omega) (by omega)
  have some_last : nearestReadingBack? units (leadingPower units - (16 : Nat)) ≠ none := by
    simp only [nearestReadingBack?, if_pos last]
    exact Option.some_ne_none _
  have succeeds : ((List.range 17).findSome? fun (extra : Nat) =>
      nearestReadingBack? units (leadingPower units - extra)) ≠ none := by
    rw [ne_eq, List.findSome?_eq_none_iff]
    intro fails
    exact some_last (fails 16 (by decide))
  obtain ⟨d, found⟩ := Option.ne_none_iff_exists'.mp succeeds
  obtain ⟨extra, tried, result⟩ := List.exists_of_findSome?_eq_some found
  refine ⟨extra, List.mem_range.mp tried, ?_⟩
  rw [result, shortest]
  exact congrArg some (by rw [found]; rfl)

/-- The shortest decimal reads back. -/
theorem shortest_spec (rep : Representable units) (pos : 0 < units) :
    readsBack units (shortest units) = true ∧ (shortest units).digits ≤ 10 ^ 17 ∧
      -340 ≤ (shortest units).exponent ∧ (shortest units).exponent ≤ 308 := by
  obtain ⟨low, high⟩ := leadingPower_bounds rep pos
  obtain ⟨extra, bound, found⟩ := shortest_found rep pos
  obtain ⟨back, exponent, digits⟩ := nearestReadingBack?_spec found
  have few := ((spans_leadingPower pos).finer extra).digits_le digits
  refine ⟨back, few.trans (Nat.pow_le_pow_right (by decide) (by omega)), ?_, ?_⟩ <;> omega

end Spans

namespace Binary64

def withSign (negative : Bool) : Binary64 → Binary64
  | nan label => nan label
  | infinite _ => infinite negative
  | finite _ units h => finite negative units h

theorem ofQuotient_withSign (negative : Bool) (num den : Nat) :
    ofQuotient negative num den = (ofQuotient false num den).withSign negative := by
  simp only [ofQuotient]
  split_ifs <;> rfl

theorem ofDecimal_withSign (negative : Bool) (digits : Nat) (exponent : Int) :
    ofDecimal negative digits exponent = (ofDecimal false digits exponent).withSign negative := by
  simp only [ofDecimal]
  split_ifs <;> first | rfl | exact ofQuotient_withSign ..

/-- What reads back as a count of units does so with either sign. -/
theorem ofDecimal_of_readsBack {units : Nat} {d : Decimal} (rep : Representable units)
    (h : readsBack units d = true) (negative : Bool) :
    ofDecimal negative d.digits d.exponent = .finite negative units rep := by
  rw [ofDecimal_withSign]
  unfold readsBack at h
  split at h
  · rw [beq_iff_eq] at h
    subst h
    simp only [*, withSign]
  · contradiction

end Binary64

end BuildingWorkflow
