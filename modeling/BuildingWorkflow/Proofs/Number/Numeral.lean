import BuildingWorkflow.Text.Digit
import Mathlib.Data.List.DropRight
import Mathlib.Data.Nat.Digits.Defs

/-!
Numerals and the numbers they stand for.

A row of digits has a value however many zeros it begins with; the numeral of a number is the row
that begins with none, unless the number is zero.
-/
namespace BuildingWorkflow

theorem digitsValue_eq (digits : List Char) :
    digitsValue digits = Nat.ofDigitChars 10 digits 0 := by
  rw [digitsValue, Nat.ofDigitChars_eq_foldl]
  simp only [Nat.mul_comm 10]
  rfl

theorem digitsValue_append (digits digits' : List Char) :
    digitsValue (digits ++ digits') =
      digitsValue digits * 10 ^ digits'.length + digitsValue digits' := by
  simp only [digitsValue_eq, Nat.ofDigitChars_append]
  rw [Nat.ofDigitChars_eq_ofDigitChars_zero, Nat.mul_comm]

@[simp] theorem digitsValue_nil : digitsValue [] = 0 := rfl

@[simp] theorem digitsValue_zeros (n : Nat) : digitsValue (List.replicate n '0') = 0 := by
  rw [digitsValue_eq, Nat.ofDigitChars_replicate_zero, Nat.mul_zero]

@[simp] theorem digitsValue_numeral (n : Nat) : digitsValue (numeral n) = n := by
  rw [digitsValue_eq, numeral, Nat.ofDigitChars_ten_toDigits]

theorem isDigit_numeral (n : Nat) : ∀ c ∈ numeral n, c.isDigit = true := fun _ =>
  Nat.isDigit_of_mem_toDigits (by decide) (by decide)

theorem numeral_ne_nil (n : Nat) : numeral n ≠ [] := Nat.toDigits_ne_nil

theorem length_numeral_le_iff {n k : Nat} (h : 0 < k) :
    (numeral n).length ≤ k ↔ n < 10 ^ k :=
  Nat.length_toDigits_le_iff (by decide) h

theorem length_numeral_pos (n : Nat) : 0 < (numeral n).length := Nat.length_toDigits_pos

theorem lt_pow_length_numeral (n : Nat) : n < 10 ^ (numeral n).length :=
  (length_numeral_le_iff (length_numeral_pos n)).mp le_rfl

theorem pow_length_numeral_le {n : Nat} (pos : 0 < n) : 10 ^ ((numeral n).length - 1) ≤ n := by
  by_contra small
  have longer := length_numeral_pos n
  by_cases single : (numeral n).length = 1
  · rw [single] at small
    omega
  · have short := (length_numeral_le_iff (by omega)).mpr (Nat.lt_of_not_le small)
    omega

/-- The numeral of a positive number does not begin with a zero. -/
theorem head?_numeral {n : Nat} (pos : 0 < n) : (numeral n).head? ≠ some '0' := by
  induction n using Nat.strong_induction_on with
  | _ n ih =>
      rw [numeral, Nat.toDigits_eq_if (by decide)]
      by_cases single : n < 10
      · rw [if_pos single, List.head?_cons, ne_eq, Option.some.injEq, Nat.digitChar_eq_zero]
        exact Nat.ne_of_gt pos
      · rw [if_neg single, List.head?_append_of_ne_nil _ Nat.toDigits_ne_nil]
        exact ih (n / 10) (by omega) (by omega)

theorem digitsValue_lt {digits : List Char} (h : ∀ c ∈ digits, c.isDigit = true) :
    digitsValue digits < 10 ^ digits.length := by
  induction digits using List.reverseRecOn with
  | nil => decide
  | append_singleton digits c ih =>
      have earlier := ih fun d member => h d (List.mem_append_left _ member)
      have digit := Char.isDigit_iff_toNat.mp (h c (by simp))
      have last : digitsValue [c] ≤ 9 := by
        have nine : '9'.toNat = 57 := rfl
        simp only [digitsValue, List.foldl_cons, List.foldl_nil]
        omega
      rw [digitsValue_append, List.length_singleton, pow_one, List.length_append,
        List.length_singleton, pow_succ]
      omega

end BuildingWorkflow
