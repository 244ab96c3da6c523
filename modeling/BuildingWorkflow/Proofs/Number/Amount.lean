import BuildingWorkflow.Proofs.Number.Whole

/-!
Finite doubles from zero on.

The sign of such a double counts for nothing: only a zero has one. Its quotients and its products with
whole numbers are rounded once, so they keep the order of the doubles. A distance from zero on, which
may be infinite, comes to a part of a whole that is one at most.
-/
namespace BuildingWorkflow

namespace Binary64

theorem zero_eq : (0 : Binary64) = .finite false 0 (by decide) := by decide +kernel

theorem ofInt_zero : ofInt (0 : Nat) = 0 := by decide +kernel

theorem one_eq : (1 : Binary64) = .finite false unitsPerOne (by decide +kernel) := by
  decide +kernel

theorem atMost_finite {negative negative' : Bool} {units units' : Nat} {h : Representable units}
    {h' : Representable units'} :
    (Binary64.finite negative units h).atMost (.finite negative' units' h') = true ↔
      signedUnits negative units ≤ signedUnits negative' units' := by
  simp only [atMost, less, same, Bool.or_eq_true, decide_eq_true_eq, beq_iff_eq]
  exact le_iff_lt_or_eq.symm

theorem signedUnits_eq {negative : Bool} {units : Nat} (unsigned : negative = true → units = 0) :
    signedUnits negative units = units := by
  cases negative with
  | false => rfl
  | true => rw [unsigned rfl]; rfl

/-- A double of so many units, without a sign unless it is zero. -/
def Amounts (x : Binary64) (units : Nat) : Prop :=
  ∃ negative h, x = .finite negative units h ∧ (negative = true → units = 0)

theorem amounts_finite {units : Nat} (h : Representable units) :
    (Binary64.finite false units h).Amounts units := ⟨false, h, rfl, nofun⟩

theorem Amounts.representable {x : Binary64} {units : Nat} (amounts : x.Amounts units) :
    Representable units := by
  obtain ⟨_, h, -, -⟩ := amounts
  exact h

theorem amounts_zero : (0 : Binary64).Amounts 0 := ⟨false, _, zero_eq, nofun⟩

theorem Amounts.atMost {x y : Binary64} {a b : Nat} (first : x.Amounts a) (second : y.Amounts b)
    (le : a ≤ b) : x.atMost y := by
  obtain ⟨negative, h, rfl, unsigned⟩ := first
  obtain ⟨negative', h', rfl, unsigned'⟩ := second
  rw [atMost_finite, signedUnits_eq unsigned, signedUnits_eq unsigned']
  exact Int.ofNat_le.mpr le

theorem Amounts.atMost_zero {x : Binary64} {units : Nat} (amounts : x.Amounts units) :
    Binary64.atMost 0 x := amounts_zero.atMost amounts (Nat.zero_le _)

/-- A quotient that stays finite is the exact one, rounded once. -/
theorem amounts_ofQuotient {negative : Bool} {num den : Nat} (pos : 0 < den)
    (finite : (ofQuotient negative num den).IsFinite) (unsigned : negative = true → num = 0) :
    (ofQuotient negative num den).Amounts (quotientUnits num den) := by
  obtain ⟨h, value⟩ := finite.ofQuotient_eq
  refine ⟨negative, h, value, fun signed => ?_⟩
  have zero := quotientUnits_mul pos (Nat.dvd_zero (spacing 0))
  rw [Nat.zero_mul] at zero
  rw [unsigned signed, zero]

section Amounts

variable {x : Binary64} {units n : Nat} (amounts : x.Amounts units)

include amounts

theorem Amounts.wholeFloor : wholeFloor x = .ok (units / unitsPerOne : Nat) := by
  obtain ⟨negative, h, rfl, unsigned⟩ := amounts
  have floored : (signedUnits negative units).fdiv unitsPerOne = (units / unitsPerOne : Nat) := by
    rw [signedUnits_eq unsigned]
    exact Int.fdiv_eq_ediv_of_nonneg _ (Int.natCast_nonneg _)
  exact congrArg Except.ok floored

/-- A product with a whole number is the exact product, rounded once. -/
theorem Amounts.ofInt_mul (part : units ≤ unitsPerOne) (few : n ≤ 2 ^ 53) :
    (ofInt n * x).Amounts (roundUnits (n * units)) := by
  obtain ⟨negative, h, rfl, unsigned⟩ := amounts
  obtain ⟨whole, same⟩ := ofInt_natCast few
  have finite : (ofInt n * .finite negative units h).IsFinite :=
    IsFinite.mul_share ⟨_, _, _, same⟩ ⟨_, _, _, rfl, part⟩
  have product : ofInt n * .finite negative units h = ofQuotient negative (n * units) 1 := by
    rw [same]
    change ofQuotient (false != negative) (n * unitsPerOne * units) unitsPerOne = _
    rw [Bool.false_bne]
    apply ofQuotient_congr negative unitsPerOne_pos Nat.one_pos
    ring
  rw [product] at finite ⊢
  rw [← quotientUnits_one]
  exact amounts_ofQuotient Nat.one_pos finite fun signed => by rw [unsigned signed, Nat.mul_zero]

/-- The whole part of a product with a whole number. -/
theorem Amounts.wholeFloor_ofInt_mul (part : units ≤ unitsPerOne) (few : n ≤ 2 ^ 53) :
    BuildingWorkflow.wholeFloor (ofInt n * x) = .ok (roundUnits (n * units) / unitsPerOne : Nat) :=
  (amounts.ofInt_mul part few).wholeFloor

/-- A quotient is the exact quotient, rounded once. -/
theorem Amounts.div {whole : Nat} (h : Representable whole) (large : unitsPerOne ≤ whole) :
    (x / .finite false whole h).Amounts (quotientUnits (units * unitsPerOne) whole) := by
  obtain ⟨negative, h', rfl, unsigned⟩ := amounts
  have pos : 0 < whole := unitsPerOne_pos.trans_le large
  have finite : (.finite negative units h' / .finite false whole h : Binary64).IsFinite :=
    IsFinite.div ⟨_, _, _, rfl⟩ false h large
  have quotient : (.finite negative units h' / .finite false whole h : Binary64) =
      ofQuotient negative (units * unitsPerOne) whole := by
    have divided : (.finite negative units h' / .finite false whole h : Binary64) =
        ofQuotient (negative != false) (units * unitsPerOne) whole := if_neg (by omega)
    rw [divided, Bool.bne_false]
  rw [quotient] at finite ⊢
  exact amounts_ofQuotient pos finite fun signed => by rw [unsigned signed, Nat.zero_mul]

theorem Amounts.less_one : x.less 1 = true ↔ units < unitsPerOne := by
  obtain ⟨negative, h, rfl, unsigned⟩ := amounts
  rw [one_eq]
  simp only [less, signedUnits_eq unsigned, decide_eq_true_eq]
  exact Int.ofNat_lt (n := units) (m := unitsPerOne)

theorem Amounts.least_one : (least 1 x).Amounts (min unitsPerOne units) := by
  have smaller := amounts.less_one
  obtain ⟨negative, h, rfl, unsigned⟩ := amounts
  by_cases below : units < unitsPerOne
  · rw [least, if_pos (smaller.mpr below), Nat.min_eq_right below.le]
    exact ⟨negative, h, rfl, unsigned⟩
  · rw [least, if_neg (below ∘ smaller.mp), Nat.min_eq_left (Nat.le_of_not_lt below), one_eq]
    exact amounts_finite _

end Amounts

/-! ## Parts of a whole -/

/-- The units of the part of a whole that a distance comes to. -/
def partUnits (whole : Nat) : Binary64 → Nat
  | .finite _ units _ => min unitsPerOne (quotientUnits (units * unitsPerOne) whole)
  | _ => unitsPerOne

theorem partUnits_le (whole : Nat) (distance : Binary64) :
    partUnits whole distance ≤ unitsPerOne := by
  cases distance with
  | finite negative units h => exact Nat.min_le_left _ _
  | nan _ | infinite _ => exact le_rfl

/-- A distance from zero on is infinite, or a number of units whose sign counts for nothing. -/
theorem cases_of_atMost_zero {distance : Binary64} (from_zero : atMost 0 distance) :
    distance = .infinite false ∨ ∃ units, distance.Amounts units := by
  rw [zero_eq] at from_zero
  cases distance with
  | nan label => simp [atMost, less, same] at from_zero
  | infinite negative =>
      cases negative with
      | true => simp [atMost, less, same] at from_zero
      | false => exact .inl rfl
  | finite negative units h =>
      refine .inr ⟨units, negative, h, rfl, fun signed => ?_⟩
      rw [atMost_finite, signed] at from_zero
      simp only [signedUnits, if_true, Bool.false_eq_true, if_false] at from_zero
      omega

section Parts

variable {distance distance' : Binary64} (from_zero : atMost 0 distance) {whole : Nat}

include from_zero

/-- The part of a distance that counts, up to one. -/
theorem amounts_least (h : Representable whole) (large : unitsPerOne ≤ whole) :
    (least 1 (distance / .finite false whole h)).Amounts (partUnits whole distance) := by
  obtain rfl | ⟨units, amounts⟩ := cases_of_atMost_zero from_zero
  · have unbounded : (.infinite false / .finite false whole h : Binary64) = .infinite false := rfl
    have more : ¬ (Binary64.infinite false).less 1 = true := by rw [one_eq]; exact nofun
    rw [unbounded, least, if_neg more, one_eq]
    exact amounts_finite _
  · have bounded := (amounts.div h large).least_one
    obtain ⟨negative, h', rfl, -⟩ := amounts
    exact bounded

theorem partUnits_mono (further : atMost distance distance') (pos : 0 < whole) :
    partUnits whole distance ≤ partUnits whole distance' := by
  obtain rfl | ⟨units, negative, h, rfl, unsigned⟩ := cases_of_atMost_zero from_zero
  · cases distance' with
    | infinite negative => exact le_rfl
    | nan label => simp [atMost, less, same] at further
    | finite negative units h => simp [atMost, less, same] at further
  · cases distance' with
    | infinite _ | nan _ => exact Nat.min_le_left _ _
    | finite negative' units' h' =>
        have more : units ≤ units' := by
          have below : (units : Int) ≤ signedUnits negative units := by
            cases negative with
            | false => exact le_rfl
            | true => rw [unsigned rfl]; decide
          have above : signedUnits negative' units' ≤ units' := by
            cases negative' <;> simp [signedUnits]
          have := atMost_finite.mp further
          omega
        exact min_le_min_left _ (quotientUnits_mono pos (Nat.mul_le_mul_right _ more))

end Parts

end Binary64

end BuildingWorkflow
