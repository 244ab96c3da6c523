import BuildingWorkflow.Node.Analysis
import BuildingWorkflow.Node.Filter
import BuildingWorkflow.Node.Parameter
import BuildingWorkflow.Node.Quantity
import BuildingWorkflow.Proofs.Number.Overflow

/-!
Whole numbers that are too large.

Values are read as numbers by filters, by quantities and by analyses, and counts of elements are
multiplied by shares. Each of these fails for one reason only, a whole number beyond the largest
float, and it is said exactly when it does.
-/
namespace BuildingWorkflow

/-- The outcome is a fault exactly for a reason, and then that a whole number is too large. -/
def Overflows {α : Type} (outcome : Except Fault α) (reason : Prop) : Prop :=
  ∀ fault, outcome = .error fault ↔ reason ∧ fault = .integerTooLarge

namespace Overflows

variable {α β : Type} {x : Except Fault α} {p q : Prop}

theorem ok (a : α) : Overflows (.ok a) False := fun _ => ⟨nofun, fun h => h.1.elim⟩

theorem congr (h : Overflows x p) (same : p ↔ q) : Overflows x q := fun fault =>
  (h fault).trans (and_congr_left' same)

theorem error (reason : p) : Overflows (.error .integerTooLarge : Except Fault α) p := fun _ =>
  ⟨fun same => ⟨reason, (Except.error.inj same).symm⟩, fun h => h.2 ▸ rfl⟩

theorem of_not (h : Overflows x p) (never : ¬ p) : ∃ a, x = .ok a := by
  cases x with
  | ok a => exact ⟨a, rfl⟩
  | error fault => exact absurd ((h fault).mp rfl).1 never

theorem bind {q : α → Prop} {f : α → Except Fault β} (h : Overflows x p)
    (next : ∀ a, x = .ok a → Overflows (f a) (q a)) :
    Overflows (x >>= f) (p ∨ ∃ a, x = .ok a ∧ q a) := by
  intro fault
  cases x with
  | ok a =>
      have never : ¬ p := fun reason => nomatch (h .integerTooLarge).mpr ⟨reason, rfl⟩
      refine (next a rfl fault).trans (and_congr_left' ?_)
      simp [never]
  | error known =>
      obtain ⟨reason, rfl⟩ := (h known).mp rfl
      refine ⟨fun same => ⟨.inl reason, ?_⟩, fun reason => reason.2 ▸ rfl⟩
      cases same
      rfl

theorem map (h : Overflows x p) (f : α → β) : Overflows (x.map f) p := by
  intro fault
  rw [← h fault]
  cases x <;> simp [Except.map]

/-- Both steps may fail, each for a reason that does not depend on the other. -/
theorem andThen {f : α → Except Fault β} (h : Overflows x p)
    (next : ∀ a, x = .ok a → Overflows (f a) q) : Overflows (x >>= f) (p ∨ q) := by
  refine (h.bind next).congr ⟨Or.imp_right fun ⟨_, _, reason⟩ => reason, ?_⟩
  rintro (reason | reason)
  · exact .inl reason
  · by_cases first : p
    · exact .inl first
    · obtain ⟨a, done⟩ := h.of_not first
      exact .inr ⟨a, done, reason⟩

theorem andReturn {f : α → Except Fault β} (h : Overflows x p)
    (next : ∀ a, x = .ok a → Overflows (f a) False) : Overflows (x >>= f) p :=
  (h.andThen next).congr (or_false p).to_iff

end Overflows

/-! ## Values -/

/-- A whole number beyond the largest float. -/
def Value.Oversized : Value → Prop
  | .int n => endOfWhole ≤ n.natAbs
  | _ => False

/-- A value that no float holds. -/
def overload : Value := .int (10 ^ 400 : Nat)

theorem oversized_overload : overload.Oversized := by
  rw [overload, Value.Oversized, Int.natAbs_natCast]
  decide +kernel

theorem Value.overflows_number? (v : Value) : Overflows v.number? v.Oversized := by
  cases v with
  | int n => exact Overflows.map (fun _ => intToFloat_eq_error_iff) some
  | null | bool _ | float _ | text _ | list _ | map _ => exact .ok _

/-! ## Filters -/

/-- Whether an operator reads a value as a number. -/
def FilterOperator.Measures (operator : FilterOperator) (v : Value) (expected : String) : Prop :=
  operator = .greaterThan ∨ operator = .lessThan ∨
    (operator = .equals ∨ operator = .notEquals) ∧ comparable v ≠ lower (trim expected)

theorem overflows_compareNumbers (relation : Binary64 → Binary64 → Bool) (v : Value)
    (expected : String) : Overflows (compareNumbers relation v expected) v.Oversized := by
  refine v.overflows_number?.andReturn fun left _ => ?_
  split
  · exact .ok _
  · exact .ok _

theorem overflows_equalsExpected (v : Value) (expected : String) :
    Overflows (equalsExpected v expected)
      (comparable v ≠ lower (trim expected) ∧ v.Oversized) := by
  unfold equalsExpected
  split
  · next same => exact (Overflows.ok _).congr (by simp [same])
  · next apart =>
    split
    · exact (overflows_compareNumbers _ v expected).congr (by simp [apart])
    · next other =>
      refine (Overflows.ok _).congr ?_
      cases v <;> simp [Value.Oversized, Value.isNumber] at other ⊢

theorem overflows_compareValue (v : Value) (operator : FilterOperator) (expected : String) :
    Overflows (compareValue v operator expected)
      (operator.Measures v expected ∧ v.Oversized) := by
  cases operator with
  | greaterThan | lessThan =>
      exact (overflows_compareNumbers _ v expected).congr (by simp [FilterOperator.Measures])
  | equals => exact (overflows_equalsExpected v expected).congr (by simp [FilterOperator.Measures])
  | notEquals =>
      simp only [compareValue]
      exact ((overflows_equalsExpected v expected).map _).congr (by simp [FilterOperator.Measures])
  | present | absent | isEmpty | isNotEmpty | contains | startsWith | endsWith =>
      simp only [compareValue]
      exact (Overflows.ok _).congr (by simp [FilterOperator.Measures])

theorem overflows_compare (found : Option Value) (operator : FilterOperator) (expected : String) :
    Overflows (compare found operator expected)
      (∃ v, found = some v ∧ operator.Measures v expected ∧ v.Oversized) := by
  unfold compare
  split
  · exact (Overflows.ok _).congr (by simp)
  · exact (Overflows.ok _).congr (by simp [Value.Oversized])
  · next v _ => exact (overflows_compareValue v operator expected).congr (by simp)

theorem overflows_keepWhere {test : Element → Except Fault Bool} {reason : Element → Prop}
    (each : ∀ e, Overflows (test e) (reason e)) (elements : List Element) :
    Overflows (keepWhere test elements) (∃ e ∈ elements, reason e) := by
  induction elements with
  | nil => exact (Overflows.ok _).congr (by simp)
  | cons e rest ih =>
      rw [List.exists_mem_cons_iff]
      exact (each e).andThen fun keep _ => ih.andReturn fun kept _ => .ok _

/-! ## Measures -/

/-- What an element records of a measure, in the order in which it is tried. -/
def Element.recorded (e : Element) (m : Measure) : List Value :=
  e.qtos.values.flatMap fun values => m.quantities.filterMap values.find?

/-- A value that a search for the first number other than zero goes past. -/
def Value.Passed (v : Value) : Prop :=
  v.number? = .ok none ∨ ∃ x, v.number? = .ok (some x) ∧ x.isZero = true

/-- A search for the first number other than zero comes to a whole number that is too large. -/
inductive MeetsOversized : List Value → Prop
  | here {v : Value} {rest : List Value} (large : v.Oversized) : MeetsOversized (v :: rest)
  | later {v : Value} {rest : List Value} (passed : v.Passed) (meets : MeetsOversized rest) :
      MeetsOversized (v :: rest)

theorem meetsOversized_cons_iff {v : Value} {rest : List Value} :
    MeetsOversized (v :: rest) ↔ v.Oversized ∨ v.Passed ∧ MeetsOversized rest := by
  constructor
  · rintro (large | ⟨passed, meets⟩)
    · exact .inl large
    · exact .inr ⟨passed, meets⟩
  · rintro (large | ⟨passed, meets⟩)
    · exact .here large
    · exact .later passed meets

theorem overflows_firstNonzero? (values : List Value) :
    Overflows (firstNonzero? values) (MeetsOversized values) := by
  induction values with
  | nil => exact (Overflows.ok _).congr ⟨nofun, nofun⟩
  | cons v rest ih =>
      have large := v.overflows_number?
      rw [firstNonzero?]
      cases read : v.number? with
      | error fault =>
          obtain ⟨reason, rfl⟩ := (large fault).mp read
          exact .error (.here reason)
      | ok found =>
          have small : ¬ v.Oversized := fun reason => by
            cases read.symm.trans ((large .integerTooLarge).mpr ⟨reason, rfl⟩)
          cases found with
          | none =>
              have passed : v.Passed := .inl read
              exact ih.congr (by simp [meetsOversized_cons_iff, small, passed])
          | some x =>
              change Overflows (if x.isZero then firstNonzero? rest else .ok (some x)) _
              by_cases zero : x.isZero = true
              · have passed : v.Passed := .inr ⟨x, read, zero⟩
                rw [if_pos zero]
                exact ih.congr (by simp [meetsOversized_cons_iff, small, passed])
              · have stopped : ¬ v.Passed := by
                  rintro (none | ⟨y, other, zero'⟩)
                  · cases read.symm.trans none
                  · cases read.symm.trans other
                    exact zero zero'
                rw [if_neg zero]
                exact (Overflows.ok _).congr (by simp [meetsOversized_cons_iff, small, stopped])

theorem Element.overflows_measure? (e : Element) (m : Measure) :
    Overflows (e.measure? m) (MeetsOversized (e.recorded m)) := by
  cases m with
  | count =>
      have none : e.recorded .count = [] := by simp [recorded, Measure.quantities]
      rw [none]
      exact (Overflows.ok _).congr ⟨nofun, nofun⟩
  | length | area | volume | weight => exact overflows_firstNonzero? _

theorem overflows_addUp (grouping : Grouping) (m : Measure) (totals : OrderedMap Binary64)
    (elements : List Element) : Overflows (addUp grouping m totals elements)
      (∃ e ∈ elements, MeetsOversized (e.recorded m)) := by
  induction elements generalizing totals with
  | nil => exact (Overflows.ok _).congr (by simp)
  | cons e rest ih =>
      rw [List.exists_mem_cons_iff]
      exact ((e.overflows_measure? m).map _).andThen fun x _ => ih _

theorem overflows_spaceTotal (m : Measure) (assumed total : Binary64) (elements : List Element) :
    Overflows (spaceTotal m assumed total elements)
      (∃ e ∈ elements, MeetsOversized (e.recorded m)) := by
  induction elements generalizing total with
  | nil => exact (Overflows.ok _).congr (by simp)
  | cons e rest ih =>
      rw [List.exists_mem_cons_iff]
      refine (e.overflows_measure? m).andThen fun found _ => ?_
      cases found with
      | none => exact ih _
      | some x => exact ih _

/-! ## Shares of collections -/

theorem overflows_wholeFloor {x : Binary64} (finite : x.IsFinite) :
    Overflows (wholeFloor x) False := by
  obtain ⟨n, whole, -⟩ := finite.exists_wholeFloor
  rw [whole]
  exact .ok n

theorem isShare_tenths : ∀ n < 10, (tenths n).IsShare := by decide +kernel

section Shares

variable {share : Binary64} (part : share.IsShare)

include part

theorem overflows_leadingShare {α : Type} (items : List α) :
    Overflows (leadingShare items share) (endOfWhole ≤ items.length) := by
  refine Overflows.andReturn (fun _ => intToFloat_eq_error_iff) fun n read => ?_
  have finite := (isFinite_of_intToFloat read).mul_share part
  exact (overflows_wholeFloor finite).andReturn fun _ _ => .ok _

theorem overflows_shareOf (n : Nat) : Overflows (shareOf n share) (endOfWhole ≤ n) := by
  refine Overflows.andReturn (fun _ => intToFloat_eq_error_iff) fun x read => ?_
  have finite := (isFinite_of_intToFloat read).mul_share part
  exact (overflows_wholeFloor finite).andReturn fun _ _ => .ok _

end Shares

theorem overflows_adjacencyReport (elements : List Element) :
    Overflows (adjacencyReport elements) (endOfWhole ≤ elements.length) :=
  (overflows_leadingShare (isShare_tenths 4 (by decide)) elements).andReturn fun _ _ => .ok _

theorem overflows_mapM {α β : Type} {f : α → Except Fault β} {p : Prop} {items : List α}
    (each : ∀ a ∈ items, Overflows (f a) p) : Overflows (items.mapM f) (items ≠ [] ∧ p) := by
  induction items with
  | nil => exact (Overflows.ok _).congr (by simp)
  | cons a rest ih =>
      have first := each a List.mem_cons_self
      have others := ih fun b member => each b (List.mem_cons_of_mem _ member)
      rw [List.mapM_cons]
      refine (first.andThen fun b _ => others.andReturn fun bs _ => .ok _).congr ?_
      simp only [ne_eq, reduceCtorEq, not_false_iff, true_and]
      exact or_iff_left_of_imp And.right

theorem overflows_visibilityReport (elements : List Element) :
    Overflows (visibilityReport elements) (endOfWhole ≤ elements.length) := by
  have few : ∀ view ∈ viewpoints, view.2.2 < 10 := by decide
  have last := overflows_shareOf (isShare_tenths 6 (by decide)) elements.length
  refine ((overflows_mapM (p := endOfWhole ≤ elements.length) fun view member => ?_).andThen
    fun _ _ => last.andReturn fun _ _ => .ok _).congr (or_iff_right_of_imp And.right)
  exact (overflows_shareOf (isShare_tenths _ (few view member)) _).andReturn fun _ _ => .ok _

end BuildingWorkflow
