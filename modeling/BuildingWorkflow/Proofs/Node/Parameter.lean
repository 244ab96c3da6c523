import BuildingWorkflow.Node.Parameter
import BuildingWorkflow.Proofs.Number.Grammar
import BuildingWorkflow.Proofs.Number.Nearest
import BuildingWorkflow.Proofs.Number.WholeText

/-!
Parameters that are numbers.

A whole number and its numeral are the double nearest to it, as a whole number again. This is the
number itself as long as it is a double. What belongs to the grammar of numbers is a number, and all
other texts are refused.
-/
namespace BuildingWorkflow

open Binary64

theorem coerce_int {n : Int} (small : n.natAbs < endOfWhole) :
    coerce .number (.int n) = .ok (.int (nearestWhole n)) := by
  have number : (Value.int n).number? = .ok (some (ofInt n)) := by
    rw [Value.number?, intToFloat_of_lt small]
    rfl
  rw [coerce, number, ← Value.ofFloat_ofInt small]
  rfl

/-- A text is coerced as what is read of it. -/
theorem coerce_text (text : String) : coerce .number (.text text) =
    match readNumber? text with
    | some x => .ok (.ofFloat x)
    | none => .error (.node ("Parameter value " ++ (Value.text text).literal ++ " is not a number")
        [("param_type", .text "number")]) := by
  rw [coerce, Value.number?]
  cases readNumber? text <;> rfl

theorem coerce_numeral {text : String} {n : Int} (written : Numerates (trim text) n) :
    coerce .number (.text text) = .ok (.ofFloat (.ofInt n)) := by
  obtain ⟨y, read, alike⟩ := written.readNumber?
  have same : (ofInt n).same y = true := (alike (ofInt n)).1.trans (merge_self n)
  rw [coerce_text, ← readNumber?_congr (a := trim text) (by rw [trim_trim]), read,
    Value.ofFloat_congr same]

/-- Whole numbers are kept as far as doubles keep them, from numerals of any size; and texts are
refused exactly when they are no numbers. -/
theorem coerce_number :
    (∀ n : Int, n.natAbs < endOfWhole → ∃ m, IsNearest n m ∧
      coerce .number (.int n) = .ok (.int m) ∧
      ∀ text, Numerates (trim text) n → coerce .number (.text text) = .ok (.int m)) ∧
    (∀ (n : Int) (text : String), endOfWhole ≤ n.natAbs → Numerates (trim text) n →
      coerce .number (.text text) = .ok (.float (.infinite (n < 0)))) ∧
    (∀ n : Int, ∃! m, IsNearest n m) ∧
    (∀ n : Int, Fits 53 n → IsNearest n n) ∧
    (∀ n : Int, (∃ x : Binary64, x.whole? = some n) ↔ Fits 53 n ∧ n.natAbs < endOfWhole) ∧
    (∀ n : Int, n.natAbs ≤ 2 ^ 53 → Fits 53 n) ∧
    ∀ (text : String) (fault : Fault), coerce .number (.text text) = .error fault ↔
      ¬ IsNumber text ∧ fault = .node
        ("Parameter value " ++ (Value.text text).literal ++ " is not a number")
        [("param_type", .text "number")] := by
  refine ⟨fun n small => ?_, fun n text large written => ?_, existsUnique_isNearest,
    fun _ => isNearest_self, fun _ => exists_whole?_iff, fun _ => Fits.of_natAbs_le,
    fun text fault => ?_⟩
  · refine ⟨nearestWhole n, isNearest_nearestWhole n, coerce_int small, fun text written => ?_⟩
    rw [coerce_numeral written, Value.ofFloat_ofInt small]
  · rw [coerce_numeral written, Value.ofFloat_ofInt_of_le large]
  · rw [coerce_text, isNumber_iff]
    cases readNumber? text <;> simp [eq_comm]

/-- A numeral with blanks around it, one beyond all doubles, and a text in words. -/
theorem coerce_number_spelled :
    (∃ m, IsNearest (-7) m ∧ coerce .number (.text " -007\n") = .ok (.int m)) ∧
    coerce .number (.text (intText endOfWhole)) =
      .ok (.float (.infinite ((endOfWhole : Int) < 0))) ∧
    IsNearest (2 ^ 53) (2 ^ 53) ∧
    coerce .number (.text "seven") = .error (.node
      ("Parameter value " ++ (Value.text "seven").literal ++ " is not a number")
      [("param_type", .text "number")]) := by
  obtain ⟨within, beyond, -, self, -, few, refused⟩ := coerce_number
  have padded : Numerates (trim " -007\n") (-7) :=
    .negative "007".toList (by decide) (List.all_eq_true.mp rfl)
  have large : Numerates (trim (intText endOfWhole)) endOfWhole := by
    rw [(numerates_intText endOfWhole).trim_eq]
    exact numerates_intText endOfWhole
  have foreign : ¬ IsNumber "seven" := by decide +kernel
  obtain ⟨m, near, -, read⟩ := within (-7) (by decide +kernel)
  exact ⟨⟨m, near, read _ padded⟩, beyond endOfWhole _ le_rfl large, self _ (few _ (by decide)),
    (refused "seven" _).mpr ⟨foreign, rfl⟩⟩

/-- The first whole number that is no double is not kept. -/
theorem coerce_number_past_mantissa :
    coerce .number (.int 9007199254740993) = .ok (.int 9007199254740992) := by
  have nearest : nearestWhole 9007199254740993 = 9007199254740992 := by decide +kernel
  rw [coerce_int (by decide +kernel), nearest]

end BuildingWorkflow
