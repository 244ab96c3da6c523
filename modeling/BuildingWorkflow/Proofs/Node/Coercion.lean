import BuildingWorkflow.Proofs.Node.Parameter
import BuildingWorkflow.Proofs.Node.Valued

/-!
Values of a declared type.

What a parameter gives is a value of its type, and a value of its type is given as it stands. So
nothing changes when a value is coerced twice. A number is an integer exactly if it is whole, and
then the double that it came from is found again, however large it is.
-/
namespace BuildingWorkflow

open Binary64

/-- The values of a type. -/
inductive ParameterType.Admits : ParameterType → Value → Prop
  | whole {x : Binary64} {n : Int} (double : x.whole? = some n) : Admits .number (.int n)
  | notWhole {x : Binary64} (other : x.whole? = none) : Admits .number (.float x)
  | truth (b : Bool) : Admits .boolean (.bool b)
  | items (items : List Value) : Admits .list (.list items)
  | text (s : String) : Admits .text (.text s)

theorem Value.admits_ofFloat (x : Binary64) : ParameterType.number.Admits (ofFloat x) := by
  unfold ofFloat
  split
  · next double => exact .whole double
  · next other => exact .notWhole other

theorem admits_of_coerce {type : ParameterType} {v w : Value} (taken : coerce type v = .ok w) :
    type.Admits w := by
  cases type with
  | number =>
      obtain ⟨number, -, taken⟩ := bind_eq_ok taken
      cases number with
      | none => cases taken
      | some x =>
          cases taken
          exact Value.admits_ofFloat x
  | boolean => cases v <;> cases taken <;> exact .truth _
  | list => cases v <;> cases taken <;> exact .items _
  | text => cases v <;> cases taken <;> exact .text _

/-- The double that a whole number came from is the one nearest to it. -/
theorem nearestWhole_of_whole? {x : Binary64} {n : Int} (double : x.whole? = some n) :
    n.natAbs < endOfWhole ∧ nearestWhole n = n := by
  obtain ⟨fits, small⟩ := exists_whole?_iff.mp ⟨x, double⟩
  exact ⟨small, (isNearest_nearestWhole n).eq (isNearest_self fits)⟩

theorem coerce_of_admits {type : ParameterType} {w : Value} (admits : type.Admits w) :
    coerce type w = .ok w := by
  cases admits with
  | whole double =>
      obtain ⟨small, same⟩ := nearestWhole_of_whole? double
      rw [coerce_int small, same]
  | @notWhole x other =>
      have kept : Value.ofFloat x = .float x := by rw [Value.ofFloat, other]
      exact congrArg Except.ok kept
  | truth _ | items _ | text _ => rfl

/-- What was coerced is coerced to itself, and the values of which this holds are those of the
type. -/
theorem coerce_idempotent :
    (∀ {type : ParameterType} {v w : Value}, coerce type v = .ok w → coerce type w = .ok w) ∧
    ∀ {type : ParameterType} {w : Value}, coerce type w = .ok w ↔ type.Admits w :=
  ⟨fun taken => coerce_of_admits (admits_of_coerce taken), admits_of_coerce, coerce_of_admits⟩

/-- A whole number far beyond the mantissa, an infinity, and a row of words. -/
theorem coerce_idempotent_spelled :
    (coerce .number (.text " 1e30 ") = .ok (.int 1000000000000000019884624838656) ∧
      coerce .number (.int 1000000000000000019884624838656) =
        .ok (.int 1000000000000000019884624838656)) ∧
    (coerce .number (.text "-Infinity") = .ok (.float (.infinite true)) ∧
      coerce .number (.float (.infinite true)) = .ok (.float (.infinite true))) ∧
    coerce .list (.text "a, ,b") = .ok (.list [.text "a", .text "b"]) ∧
      coerce .list (.list [.text "a", .text "b"]) = .ok (.list [.text "a", .text "b"]) := by
  have large : coerce .number (.text " 1e30 ") = .ok (.int 1000000000000000019884624838656) := by
    have read : readNumber? " 1e30 " = some (.ofInt (10 ^ 30)) := by decide +kernel
    have nearest : nearestWhole (10 ^ 30) = 1000000000000000019884624838656 := by decide +kernel
    rw [coerce_text, read, ← nearest, ← Value.ofFloat_ofInt (by decide +kernel)]
  have infinite : coerce .number (.text "-Infinity") = .ok (.float (.infinite true)) := by
    have read : readNumber? "-Infinity" = some (.infinite true) := by decide +kernel
    rw [coerce_text, read]
    rfl
  have words : coerce .list (.text "a, ,b") = .ok (.list [.text "a", .text "b"]) := rfl
  exact ⟨⟨large, coerce_idempotent.1 large⟩, ⟨infinite, coerce_idempotent.1 infinite⟩, words,
    coerce_idempotent.1 words⟩

end BuildingWorkflow
