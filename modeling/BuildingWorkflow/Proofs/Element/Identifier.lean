import BuildingWorkflow.Element.Basic
import BuildingWorkflow.Proofs.Number.Numeral

/-!
What the identifier of an element tells.

The class in an identifier may have digits and hyphens of its own, but the number in front of it
ends at the first hyphen behind a digit. So the number can be read back from the identifier,
whatever the class is.
-/
namespace BuildingWorkflow

/-- The number at the beginning of a text: the digits in front, behind a sign if there is one. -/
def leadingInt : List Char → Int
  | '-' :: cs => -digitsValue (cs.takeWhile Char.isDigit)
  | cs => digitsValue (cs.takeWhile Char.isDigit)

/-- A numeral ends where another character than a digit stands. -/
theorem takeWhile_numeral (n : Nat) (rest : List Char) :
    (numeral n ++ '-' :: rest).takeWhile Char.isDigit = numeral n := by
  rw [List.takeWhile_append_of_pos (isDigit_numeral n), List.takeWhile_cons_of_neg (by decide),
    List.append_nil]

theorem leadingInt_numeral (n : Nat) (rest : List Char) :
    leadingInt (numeral n ++ '-' :: rest) = n := by
  have unsigned : leadingInt (numeral n ++ '-' :: rest) =
      digitsValue ((numeral n ++ '-' :: rest).takeWhile Char.isDigit) := by
    unfold leadingInt
    split
    · next cs signed =>
      cases digits : numeral n with
      | nil => exact absurd digits (numeral_ne_nil n)
      | cons c _ =>
          rw [digits, List.cons_append] at signed
          have digit := isDigit_numeral n c (by simp [digits])
          rw [(List.cons.inj signed).1] at digit
          cases digit
    · rfl
  rw [unsigned, takeWhile_numeral, digitsValue_numeral]

/-- The number that an identifier begins with. -/
theorem leadingInt_elementId (n : Int) (type : String) :
    leadingInt (elementId n type).toList = n := by
  have parts : (elementId n type).toList = (intText n).toList ++ '-' :: (upper type).toList := by
    simp [elementId]
  rw [parts, intText, String.toList_ofList]
  split
  · next negative =>
    rw [List.cons_append, leadingInt, takeWhile_numeral, digitsValue_numeral]
    omega
  · next natural =>
    rw [leadingInt_numeral]
    omega

/-- Elements of one identifier have one number and, but for case, one class. -/
theorem elementId_eq_iff {n n' : Int} {type type' : String} :
    elementId n type = elementId n' type' ↔ n = n' ∧ upper type = upper type' := by
  constructor
  · intro same
    have number : n = n' := by
      rw [← leadingInt_elementId n type, same, leadingInt_elementId]
    subst number
    exact ⟨rfl, String.append_right_inj _ |>.mp same⟩
  · rintro ⟨rfl, cased⟩
    rw [elementId, cased, elementId]

end BuildingWorkflow
