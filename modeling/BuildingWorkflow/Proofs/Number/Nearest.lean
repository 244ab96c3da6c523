import BuildingWorkflow.Proofs.Number.Whole

/-!
The double nearest to a whole number.

Among the whole numbers with a mantissa of 53 bits exactly one is nearest to a given number, if of two
that are equally near the one with a bit to spare counts. It is what rounding to a double gives,
below the end of doubles.
-/
namespace BuildingWorkflow

/-- A whole number has a mantissa of so many bits. With 53 it is a double, were there no largest. -/
def Fits (bits : Nat) (n : Int) : Prop :=
  ∃ (mantissa : Int) (k : Nat), mantissa.natAbs < 2 ^ bits ∧ n = mantissa * 2 ^ k

/-- Of the whole numbers that are doubles none is nearer to `n` than `m`, and if another one is as
near, the mantissa of `m` has a bit to spare, which makes it the even one of the two. -/
structure IsNearest (n m : Int) : Prop where
  fits : Fits 53 m
  le : ∀ d, Fits 53 d → (n - m).natAbs ≤ (n - d).natAbs
  even : ∀ d, Fits 53 d → (n - m).natAbs = (n - d).natAbs → d ≠ m → Fits 52 m

namespace Fits

theorem zero (bits : Nat) : Fits bits 0 := ⟨0, 0, Nat.two_pow_pos bits, rfl⟩

/-- The power of two after all mantissas has a mantissa, too. -/
theorem mul_pow {bits mantissa : Nat} (few : mantissa ≤ 2 ^ (bits + 1)) (k : Nat) :
    Fits (bits + 1) (mantissa * 2 ^ k : Nat) := by
  obtain less | rfl := Nat.lt_or_eq_of_le few
  · exact ⟨mantissa, k, less, by push_cast; rfl⟩
  · refine ⟨1, bits + 1 + k, Nat.one_lt_two_pow (by omega), ?_⟩
    push_cast
    rw [one_mul, pow_add _ _ k]

theorem neg {bits : Nat} {n : Int} (fits : Fits bits n) : Fits bits (-n) := by
  obtain ⟨mantissa, k, less, rfl⟩ := fits
  exact ⟨-mantissa, k, by rwa [Int.natAbs_neg], (neg_mul _ _).symm⟩

theorem natAbs_iff {bits : Nat} {n : Int} : Fits bits n.natAbs ↔ Fits bits n := by
  obtain same | same := Int.natAbs_eq n
  · rw [← same]
  · constructor
    · intro fits
      rw [same]
      exact fits.neg
    · intro fits
      have flipped := fits.neg
      rwa [same, neg_neg] at flipped

theorem of_natAbs_le {n : Int} (few : n.natAbs ≤ 2 ^ 53) : Fits 53 n := by
  have fits := mul_pow few 0
  rw [pow_zero, Nat.mul_one] at fits
  exact natAbs_iff.mp fits

theorem spacing_dvd {n : Nat} (fits : Fits 53 n) : spacing n ∣ n := by
  obtain ⟨mantissa, k, less, same⟩ := fits
  have same : n = mantissa.natAbs * 2 ^ k := by
    have size := congrArg Int.natAbs same
    rwa [Int.natAbs_natCast, Int.natAbs_mul, Int.natAbs_pow] at size
  rw [same]
  exact Nat.dvd_of_mod_eq_zero (mul_pow_mod_spacing less.le)

end Fits

/-! ## Multiples -/

/-- A tie goes from an even number nowhere. -/
theorem roundQuotient_le_of_le {num den m : Nat} (pos : 0 < den) (even : m % 2 = 0)
    (le : 2 * num ≤ (2 * m + 1) * den) : roundQuotient num den ≤ m := by
  obtain less | tie := Nat.lt_or_eq_of_le le
  · exact roundQuotient_le_of_lt pos less
  · have floor : num / den = m :=
      Nat.div_eq_of_lt_le (by linarith) (by linarith)
    have rest : 2 * (num % den) = den := by
      have split := Nat.div_add_mod num den
      rw [floor] at split
      linarith
    rw [roundQuotient, floor, rest]
    simp [even]

/-- No multiple is nearer than the rounded one, and of two that are as near it is the even one. -/
theorem roundQuotient_nearest (num : Nat) {den : Nat} (pos : 0 < den) (k : Nat) :
    ((num : Int) - (roundQuotient num den * den : Nat)).natAbs ≤
      ((num : Int) - (k * den : Nat)).natAbs ∧
    (((num : Int) - (roundQuotient num den * den : Nat)).natAbs =
      ((num : Int) - (k * den : Nat)).natAbs →
        k ≠ roundQuotient num den → roundQuotient num den % 2 = 0) := by
  obtain ⟨upper, lower⟩ := two_mul_roundQuotient num pos
  have odd {m : Nat} : m % 2 = 1 → (2 * m + 1) * den ≤ 2 * num → m < roundQuotient num den :=
    lt_roundQuotient_of_le pos
  have even {m : Nat} : m % 2 = 0 → 2 * num ≤ (2 * m + 1) * den → roundQuotient num den ≤ m :=
    roundQuotient_le_of_le pos
  generalize roundQuotient num den = q at *
  rw [Nat.add_mul, Nat.one_mul, Nat.mul_assoc] at upper
  rw [Nat.mul_assoc] at lower
  obtain below | rfl | above := lt_trichotomy k q
  · have steps := Nat.mul_le_mul_right den below
    rw [Nat.succ_mul] at steps
    refine ⟨by omega, fun tie _ => ?_⟩
    have next : q = k + 1 := Nat.eq_of_mul_eq_mul_right pos (by rw [Nat.succ_mul]; omega)
    have middle : 2 * num = (2 * k + 1) * den := by
      rw [Nat.add_mul, Nat.mul_assoc]
      omega
    obtain half | half := Nat.mod_two_eq_zero_or_one k
    · have := even half middle.le
      omega
    · omega
  · exact ⟨le_rfl, fun _ other => absurd rfl other⟩
  · have steps := Nat.mul_le_mul_right den above
    rw [Nat.succ_mul] at steps
    refine ⟨by omega, fun tie _ => ?_⟩
    have middle : (2 * q + 1) * den = 2 * num := by
      rw [Nat.add_mul, Nat.mul_assoc]
      omega
    obtain half | half := Nat.mod_two_eq_zero_or_one q
    · exact half
    · exact absurd (odd half middle.le) (lt_irrefl q)

/-! ## Counts -/

section Counts

variable {n : Nat}

theorem mantissa_le (n : Nat) : roundQuotient n (spacing n) ≤ 2 ^ 53 := by
  simpa using roundQuotient_spacing_le n 1

theorem fits_roundUnits (n : Nat) : Fits 53 (roundUnits n : Nat) := Fits.mul_pow (mantissa_le n) _

/-- What does not lie on the grid of a count lies below the power of two where this grid begins. -/
theorem lt_pow_of_off_grid {d : Nat} (fits : Fits 53 d) (off : ¬ spacing n ∣ d) :
    d < 2 ^ n.log2 := by
  by_contra above
  have nonzero : d ≠ 0 := by
    rintro rfl
    exact off (Nat.dvd_zero _)
  have magnitude := (Nat.le_log2 nonzero).mpr (Nat.le_of_not_lt above)
  exact off ((Nat.pow_dvd_pow 2 (by omega)).trans fits.spacing_dvd)

theorem roundUnits_nearest {d : Nat} (fits : Fits 53 d) :
    ((n : Int) - roundUnits n).natAbs ≤ ((n : Int) - d).natAbs ∧
      (((n : Int) - roundUnits n).natAbs = ((n : Int) - d).natAbs → d ≠ roundUnits n →
        Fits 52 (roundUnits n : Nat)) := by
  have pos := spacing_pos n
  by_cases grid : spacing n ∣ d
  · obtain ⟨k, rfl⟩ := grid
    rw [Nat.mul_comm (spacing n)]
    obtain ⟨le, even⟩ := roundQuotient_nearest n pos k
    refine ⟨le, fun tie other => ?_⟩
    have half := even tie fun same => other (same ▸ rfl)
    obtain ⟨j, double⟩ := Nat.dvd_of_mod_eq_zero half
    have few := mantissa_le n
    have shifted : roundUnits n = j * 2 ^ (n.log2 - 52 + 1) := by
      rw [roundUnits, double, pow_succ]
      change 2 * j * 2 ^ (n.log2 - 52) = _
      ring
    rw [shifted]
    exact Fits.mul_pow (by omega) _
  · have below := lt_pow_of_off_grid fits grid
    have nonzero : n ≠ 0 := by
      rintro rfl
      exact grid (Nat.one_dvd d)
    have start := Nat.log2_self_le nonzero
    obtain ⟨k, power⟩ := spacing_dvd_pow (le_refl n.log2)
    have nearer := (roundQuotient_nearest n pos k).1
    rw [Nat.mul_comm k, ← power] at nearer
    change ((n : Int) - roundUnits n).natAbs ≤ _ at nearer
    constructor <;> omega

end Counts

/-! ## Whole numbers -/

/-- The whole number that a whole number is rounded to, as if there were no largest double. -/
def nearestWhole (n : Int) : Int := Binary64.signedUnits (n < 0) (roundUnits n.natAbs)

theorem IsNearest.neg {n m : Int} (near : IsNearest n m) : IsNearest (-n) (-m) where
  fits := near.fits.neg
  le d fits := by
    have := near.le (-d) fits.neg
    omega
  even d fits tie other := by
    refine (near.even (-d) fits.neg ?_ ?_).neg <;> omega

/-- Numbers on the other side of zero are further away than zero. -/
theorem isNearest_roundUnits (n : Nat) : IsNearest n (roundUnits n) := by
  have zero := (roundUnits_nearest (n := n) (d := 0) (Fits.zero 53)).1
  refine ⟨fits_roundUnits n, fun d fits => ?_, fun d fits tie other => ?_⟩
  · have near := (roundUnits_nearest (n := n) (Fits.natAbs_iff.mpr fits)).1
    omega
  · refine (roundUnits_nearest (n := n) (Fits.natAbs_iff.mpr fits)).2 ?_ ?_ <;> omega

theorem isNearest_nearestWhole (n : Int) : IsNearest n (nearestWhole n) := by
  have near := isNearest_roundUnits n.natAbs
  unfold nearestWhole Binary64.signedUnits
  split
  · next negative =>
    rw [decide_eq_true_eq] at negative
    have flipped := near.neg
    rwa [show -(n.natAbs : Int) = n by omega] at flipped
  · next positive =>
    rw [decide_eq_true_eq] at positive
    rwa [show (n.natAbs : Int) = n by omega] at near

section Ties

variable {n m m' mantissa step : Int} {k : Nat} (near : IsNearest n m) (other : m ≠ m')
  (tie : m + m' = 2 * n) (few : mantissa.natAbs < 2 ^ 52) (same : m = mantissa * 2 ^ k)
  (grid : m' = step * 2 ^ k)

include near other tie few same grid

/-- Two neighbours on a grid have a number between them on the next finer grid. -/
theorem IsNearest.not_neighbour (next : step = mantissa + 1 ∨ step = mantissa - 1) : False := by
  cases k with
  | zero =>
      rw [pow_zero, mul_one] at same grid
      omega
  | succ k =>
      have middle : n = (mantissa + step) * 2 ^ k := by
        rw [same, grid, pow_succ] at tie
        linarith
      have := near.le n ⟨_, k, by omega, middle⟩
      omega

/-- A mantissa with a bit to spare has a neighbour on the side of any other number. -/
theorem IsNearest.not_tie : False := by
  have pos : (0 : Int) < 2 ^ k := by positivity
  obtain far | next | far : step ≤ mantissa - 2 ∨
      (step = mantissa + 1 ∨ step = mantissa - 1) ∨ mantissa + 2 ≤ step := by
    have : mantissa ≠ step := fun equal => other (by rw [same, grid, equal])
    omega
  · have lower := near.le ((mantissa - 1) * 2 ^ k) ⟨_, k, by omega, rfl⟩
    have steps := Int.mul_le_mul_of_nonneg_right far pos.le
    rw [Int.sub_mul, ← same, ← grid] at steps
    rw [Int.sub_mul, ← same] at lower
    omega
  · exact near.not_neighbour other tie few same grid next
  · have upper := near.le ((mantissa + 1) * 2 ^ k) ⟨_, k, by omega, rfl⟩
    have steps := Int.mul_le_mul_of_nonneg_right far pos.le
    rw [Int.add_mul, ← same, ← grid] at steps
    rw [Int.add_mul, ← same] at upper
    omega

end Ties

theorem IsNearest.eq {n m m' : Int} (first : IsNearest n m) (second : IsNearest n m') : m = m' := by
  by_contra other
  have apart : (n - m).natAbs = (n - m').natAbs :=
    le_antisymm (first.le m' second.fits) (second.le m first.fits)
  have tie : m + m' = 2 * n := by omega
  obtain ⟨a, j, few, same⟩ := first.even m' second.fits apart (Ne.symm other)
  obtain ⟨b, k, few', same'⟩ := second.even m first.fits apart.symm other
  obtain le | le := Nat.le_total j k
  · obtain ⟨i, rfl⟩ := Nat.exists_eq_add_of_le le
    have grid : m' = b * 2 ^ i * 2 ^ j := by
      rw [same', pow_add]
      ring
    exact first.not_tie other tie few same grid
  · obtain ⟨i, rfl⟩ := Nat.exists_eq_add_of_le le
    have grid : m = a * 2 ^ i * 2 ^ k := by
      rw [same, pow_add]
      ring
    exact second.not_tie (Ne.symm other) (by omega) few' same' grid

theorem existsUnique_isNearest (n : Int) : ∃! m, IsNearest n m :=
  ⟨nearestWhole n, isNearest_nearestWhole n, fun _ near => near.eq (isNearest_nearestWhole n)⟩

/-- A whole number that is a double is its own nearest one. -/
theorem isNearest_self {n : Int} (fits : Fits 53 n) : IsNearest n n := by
  refine ⟨fits, fun d _ => by omega, fun d _ tie other => ?_⟩
  omega

/-! ## As values -/

/-- Rounding takes no notice of the units, since whole numbers below `2 ^ 53` are kept. -/
theorem roundUnits_mul (n : Nat) : roundUnits (n * unitsPerOne) = roundUnits n * unitsPerOne := by
  obtain few | many := Nat.lt_or_ge n (2 ^ 53)
  · have grid : spacing n ∣ n := Fits.spacing_dvd (Fits.of_natAbs_le few.le)
    rw [roundUnits_mul_unitsPerOne few.le, roundUnits_of_dvd grid]
  · obtain ⟨k, -, one⟩ := exists_unitsPerOne_eq
    rw [roundUnits, roundUnits, one, spacing_mul_pow ((by decide : 2 ^ 52 ≤ 2 ^ 53).trans many),
      roundQuotient_mul_mul _ _ (Nat.two_pow_pos k), Nat.mul_assoc]

theorem Binary64.natAbs_signedUnits (negative : Bool) (units : Nat) :
    (signedUnits negative units).natAbs = units := by
  cases negative <;> simp [signedUnits]

theorem whole?_ofInt {n : Int} (small : n.natAbs < endOfWhole) :
    (Binary64.ofInt n).whole? = some (nearestWhole n) := by
  obtain ⟨h, finite⟩ := Binary64.ofInt_of_lt small
  rw [finite, Binary64.whole?, roundUnits_mul, Nat.mul_mod_left, if_pos rfl,
    Nat.mul_div_cancel _ unitsPerOne_pos]
  rfl

/-- The whole numbers that are doubles. -/
theorem exists_whole?_iff {n : Int} :
    (∃ x : Binary64, x.whole? = some n) ↔ Fits 53 n ∧ n.natAbs < endOfWhole := by
  constructor
  · rintro ⟨x, whole⟩
    cases x with
    | nan => cases whole
    | infinite => cases whole
    | finite negative units h =>
        obtain ⟨whole, same⟩ := Option.ite_none_right_eq_some.mp whole
        have count : n.natAbs * unitsPerOne = units := by
          rw [← Option.some.inj same, Binary64.natAbs_signedUnits]
          exact Nat.div_mul_cancel (Nat.dvd_of_mod_eq_zero whole)
        have kept := roundUnits_of_dvd (Nat.dvd_of_mod_eq_zero h.2)
        have bound := h.add_le
        rw [← count, roundUnits_mul] at kept
        rw [← count, endOfUnits_eq_mul, ← Nat.succ_mul] at bound
        have fits := fits_roundUnits n.natAbs
        rw [Nat.eq_of_mul_eq_mul_right unitsPerOne_pos kept] at fits
        exact ⟨Fits.natAbs_iff.mp fits, Nat.le_of_mul_le_mul_right bound unitsPerOne_pos⟩
  · rintro ⟨fits, small⟩
    refine ⟨_, (whole?_ofInt small).trans (congrArg some ?_)⟩
    exact (isNearest_nearestWhole n).eq (isNearest_self fits)

namespace Value

theorem ofFloat_ofInt {n : Int} (small : n.natAbs < endOfWhole) :
    ofFloat (.ofInt n) = .int (nearestWhole n) := by
  rw [ofFloat, whole?_ofInt small]

theorem ofFloat_ofInt_of_le {n : Int} (large : endOfWhole ≤ n.natAbs) :
    ofFloat (.ofInt n) = .float (.infinite (n < 0)) := by
  rw [Binary64.ofInt_eq_infinite large]
  rfl

/-- Equal doubles are one value: those that differ nevertheless are the zeros, which are whole. -/
theorem ofFloat_congr {x y : Binary64} (same : x.same y = true) : ofFloat x = ofFloat y := by
  cases x <;> cases y <;> simp only [Binary64.same, Bool.false_eq_true] at same
  · rw [eq_of_beq same]
  · next negative units h negative' units' h' =>
    have zero (negative : Bool) (h : Representable 0) :
        ofFloat (.finite negative 0 h) = .int 0 := by
      cases negative <;> simp [ofFloat, Binary64.whole?, Binary64.signedUnits]
    have same := eq_of_beq same
    obtain rfl : units = units' := by
      cases negative <;> cases negative' <;> simp [Binary64.signedUnits] at same <;> omega
    obtain rfl | nonzero := Nat.eq_zero_or_pos units
    · rw [zero, zero]
    · obtain rfl : negative = negative' := by
        cases negative <;> cases negative' <;> simp [Binary64.signedUnits] at same ⊢ <;> omega
      rfl

end Value

end BuildingWorkflow
