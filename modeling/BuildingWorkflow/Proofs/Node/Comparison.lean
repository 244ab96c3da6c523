import BuildingWorkflow.Node.Filter
import BuildingWorkflow.Proofs.Number.Spelling

/-!
Comparisons of a value with a configured text.

Of the text a comparison sees two things only: its lower case without the blanks around it, and the
number that it reads as. The second is settled by the first, and the same goes for values that are
texts.
-/
namespace BuildingWorkflow

section Spellings

variable {a b : String}

theorem compareNumbers_congr (alike : lower (trim a) = lower (trim b))
    (relation : Binary64 → Binary64 → Bool) (v : Value) :
    compareNumbers relation v a = compareNumbers relation v b := by
  simp only [compareNumbers, readNumber?_congr alike]

theorem equalsExpected_congr (alike : lower (trim a) = lower (trim b)) (v : Value) :
    equalsExpected v a = equalsExpected v b := by
  simp only [equalsExpected, compareNumbers_congr alike, alike]

theorem compareValue_congr (alike : lower (trim a) = lower (trim b)) (v : Value)
    (operator : FilterOperator) : compareValue v operator a = compareValue v operator b := by
  cases operator <;>
    simp only [compareValue, compareNumbers_congr alike, equalsExpected_congr alike, alike]

/-- Texts are equal as texts or not at all. -/
theorem equalsExpected_text (s expected : String) :
    equalsExpected (.text s) expected = .ok (lower (trim s) == lower (trim expected)) := by
  unfold equalsExpected
  split
  · next same => exact congrArg Except.ok (beq_iff_eq.mpr same).symm
  · next apart => exact congrArg Except.ok (beq_eq_false_iff_ne.mpr apart).symm

theorem compareValue_text_congr (alike : lower (trim a) = lower (trim b))
    (operator : FilterOperator) (expected : String) :
    compareValue (.text a) operator expected = compareValue (.text b) operator expected := by
  have shown : comparable (.text a) = comparable (.text b) := alike
  have number : (Value.text a).number? = (Value.text b).number? :=
    congrArg Except.ok (readNumber?_congr alike)
  cases operator <;>
    simp only [compareValue, compareNumbers, equalsExpected_text, shown, number, alike]

end Spellings

/-- Comparisons take no notice of case or of blanks around a text, neither in what is configured nor
in what is found. -/
theorem compare_alike :
    (∀ (found : Option Value) (operator : FilterOperator) (a b : String),
      lower (trim a) = lower (trim b) → compare found operator a = compare found operator b) ∧
    ∀ (operator : FilterOperator) (s t expected : String), lower (trim s) = lower (trim t) →
      compare (some (.text s)) operator expected = compare (some (.text t)) operator expected := by
  constructor
  · intro found operator a b alike
    unfold compare
    split
    · rfl
    · rfl
    · exact compareValue_congr alike _ operator
  · intro operator s t expected alike
    exact compareValue_text_congr alike operator expected

/-- A number with an exponent, and an infinity. -/
theorem compare_alike_numbers :
    (lower (trim " 1E3\t") = lower (trim "1e3") ∧
      compare (some (.int 1000)) .equals " 1E3\t" = compare (some (.int 1000)) .equals "1e3") ∧
    lower (trim "-INF") = lower (trim " -inf") ∧
      compare (some (.text "-INF")) .lessThan "0" = compare (some (.text " -inf")) .lessThan "0" := by
  have first : lower (trim " 1E3\t") = lower (trim "1e3") := by decide +kernel
  have second : lower (trim "-INF") = lower (trim " -inf") := by decide +kernel
  exact ⟨⟨first, compare_alike.1 _ _ _ _ first⟩, second, compare_alike.2 _ _ _ _ second⟩

end BuildingWorkflow
