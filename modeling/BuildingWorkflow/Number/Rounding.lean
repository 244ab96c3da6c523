/-!
Quotients of natural numbers rounded to the nearest whole number, a tie going to the even
neighbour. The binary and the decimal grids of this library round with this one function.
-/
namespace BuildingWorkflow

/-- The whole number nearest to `num / den`; of two equally near ones the even one. -/
def roundQuotient (num den : Nat) : Nat :=
  let floor := num / den
  let rest := 2 * (num % den)
  if rest < den then floor
  else if den < rest then floor + 1
  else if floor % 2 = 0 then floor else floor + 1

theorem roundQuotient_eq_or (num den : Nat) :
    roundQuotient num den = num / den ∨ roundQuotient num den = num / den + 1 := by
  unfold roundQuotient
  dsimp only
  split
  · exact .inl rfl
  · split
    · exact .inr rfl
    · split
      · exact .inl rfl
      · exact .inr rfl

theorem le_roundQuotient (num den : Nat) : num / den ≤ roundQuotient num den := by
  obtain h | h := roundQuotient_eq_or num den <;> omega

theorem roundQuotient_le (num den : Nat) : roundQuotient num den ≤ num / den + 1 := by
  obtain h | h := roundQuotient_eq_or num den <;> omega

/-- A quotient without remainder is kept. -/
theorem roundQuotient_mul_right (n : Nat) {den : Nat} (h : 0 < den) :
    roundQuotient (n * den) den = n := by
  simp [roundQuotient, Nat.mul_div_cancel n h, h]

end BuildingWorkflow
