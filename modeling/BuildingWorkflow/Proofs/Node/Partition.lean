import BuildingWorkflow.Node.Filter
import BuildingWorkflow.Proofs.Node.Property

/-!
Filters with opposite operators.

Two filters that differ in their operators alone, the one saying the opposite of the other, part
the elements among them: every element passes one of the two and not the other. What cannot be
compared is compared by neither, so that both fail or none does.
-/
namespace BuildingWorkflow

/-- The second operator says the opposite of the first. -/
inductive FilterOperator.Opposite : FilterOperator → FilterOperator → Prop
  | equals : Opposite .equals .notEquals
  | isEmpty : Opposite .isEmpty .isNotEmpty
  | present : Opposite .present .absent

/-! ## One value -/

section Operators

variable {operator operator' : FilterOperator} (opposite : operator.Opposite operator')

include opposite

/-- A type of filter supports both operators or neither. -/
theorem contains_opposite (type : FilterType) :
    type.operators.contains operator' = type.operators.contains operator := by
  cases opposite <;> cases type <;> rfl

theorem compareValue_opposite (v : Value) (expected : String) :
    compareValue v operator' expected = (compareValue v operator expected).map (!·) := by
  cases opposite <;> rfl

theorem compare_opposite (found : Option Value) (expected : String) :
    compare found operator' expected = (compare found operator expected).map (!·) := by
  unfold compare
  split
  · cases opposite <;> rfl
  · cases opposite <;> rfl
  · exact compareValue_opposite opposite _ expected

end Operators

/-! ## Many elements -/

/-- Whether a test succeeds and says yes. -/
def saysYes : Except Fault Bool → Bool
  | .ok b => b
  | .error _ => false

/-- A test and its opposite meet the same fault, or part the elements among them. -/
theorem keepWhere_opposite (test : Element → Except Fault Bool) (elements : List Element) :
    (∃ fault, keepWhere test elements = .error fault ∧
      keepWhere (fun e => (test e).map (!·)) elements = .error fault) ∨
    keepWhere test elements = .ok (elements.filter fun e => saysYes (test e)) ∧
      keepWhere (fun e => (test e).map (!·)) elements =
        .ok (elements.filter fun e => !saysYes (test e)) := by
  induction elements with
  | nil => exact .inr ⟨rfl, rfl⟩
  | cons e rest ih =>
      simp only [keepWhere]
      cases tested : test e with
      | error fault => exact .inl ⟨fault, rfl, rfl⟩
      | ok pass =>
          obtain ⟨fault, failed, failed'⟩ | ⟨kept, kept'⟩ := ih
          · left
            rw [failed, failed']
            exact ⟨fault, rfl, rfl⟩
          · right
            rw [kept, kept', List.filter_cons, List.filter_cons, tested]
            cases pass <;> exact ⟨rfl, rfl⟩

namespace FilterOptions

/-- The elements that a filter keeps. -/
def keep (o : FilterOptions) (elements : List Element) : Except Fault (List Element) :=
  match o.type with
  | .psetExists =>
      if o.wantedSet = "" then
        .error (.node "Filter on property set existence needs a set name" [])
      else .ok (elements.filter fun e =>
        (e.psets.contains o.wantedSet || e.qtos.contains o.wantedSet) == (o.operator = .present))
  | type =>
      if type = .property && trim o.property = "" then
        .error (.node "Filter on property value needs a property name" [])
      else keepWhere (fun e => compare (o.valueOf e) o.operator o.value) elements

theorem keep_of_sets {o : FilterOptions} (sets : o.type = .psetExists) (elements : List Element) :
    o.keep elements = if o.wantedSet = "" then
        .error (.node "Filter on property set existence needs a set name" [])
      else .ok (elements.filter fun e =>
        (e.psets.contains o.wantedSet || e.qtos.contains o.wantedSet) ==
          (o.operator = .present)) := by
  simp only [keep, sets]

theorem keep_of_values {o : FilterOptions} (values : o.type ≠ .psetExists)
    (elements : List Element) :
    o.keep elements = if o.type = .property && trim o.property = "" then
        .error (.node "Filter on property value needs a property name" [])
      else keepWhere (fun e => compare (o.valueOf e) o.operator o.value) elements := by
  unfold keep
  split
  · next sets => exact absurd sets values
  · rfl

theorem evaluate_of_supported {o : FilterOptions} {inputs : Inputs}
    (supported : o.type.operators.contains o.operator = true) :
    o.evaluate inputs = inputs.main >>= fun source =>
      (o.keep source.elements).map fun kept => .elements ⟨kept, source.model⟩ := by
  unfold evaluate
  rw [supported]
  refine congrArg (inputs.main >>= ·) (funext fun source => ?_)
  split
  · next sets =>
    rw [keep_of_sets sets]
    by_cases unnamed : o.wantedSet = ""
    · rw [if_pos unnamed, if_pos unnamed]
      rfl
    · rw [if_neg unnamed, if_neg unnamed]
      rfl
  · next values =>
    rw [keep_of_values values]
    split
    · rfl
    · cases keepWhere (fun e => compare (o.valueOf e) o.operator o.value) source.elements <;> rfl

theorem evaluate_of_unsupported {o : FilterOptions}
    (unsupported : o.type.operators.contains o.operator = false) (inputs : Inputs) :
    ∃ fault, o.evaluate inputs = .error fault := by
  unfold evaluate
  rw [unsupported]
  exact ⟨_, rfl⟩

/-- The same filter with another operator. -/
def withOperator (o : FilterOptions) (operator : FilterOperator) : FilterOptions :=
  { o with operator := operator }

section Opposite

variable {operator operator' : FilterOperator} (opposite : operator.Opposite operator')
  (o : FilterOptions)

include opposite

/-- Filters on sets know a single pair of opposites. -/
theorem present_of_sets (sets : o.type = .psetExists)
    (supported : o.type.operators.contains operator = true) :
    operator = .present ∧ operator' = .absent := by
  rw [sets] at supported
  cases opposite with
  | equals | isEmpty => cases supported
  | present => exact ⟨rfl, rfl⟩

theorem keep_opposite (supported : o.type.operators.contains operator = true)
    (elements : List Element) :
    (∃ fault, (o.withOperator operator).keep elements = .error fault ∧
      (o.withOperator operator').keep elements = .error fault) ∨
    ∃ passes : Element → Bool,
      (o.withOperator operator).keep elements = .ok (elements.filter passes) ∧
      (o.withOperator operator').keep elements = .ok (elements.filter (!passes ·)) := by
  by_cases sets : o.type = .psetExists
  · obtain ⟨rfl, rfl⟩ := present_of_sets opposite o sets supported
    have kept := keep_of_sets (o := o.withOperator .present) sets elements
    have kept' := keep_of_sets (o := o.withOperator .absent) sets elements
    by_cases unnamed : o.wantedSet = ""
    · exact .inl ⟨_, kept.trans (if_pos unnamed), kept'.trans (if_pos unnamed)⟩
    · let has (e : Element) : Bool := e.psets.contains o.wantedSet || e.qtos.contains o.wantedSet
      refine .inr ⟨fun e => has e == true, kept.trans (if_neg unnamed),
        (kept'.trans (if_neg unnamed)).trans ?_⟩
      refine congrArg Except.ok (List.filter_congr fun e _ => ?_)
      change (has e == false) = !(has e == true)
      cases has e <;> rfl
  · have values := keep_of_values (o := o.withOperator operator) sets elements
    have values' := keep_of_values (o := o.withOperator operator') sets elements
    by_cases unnamed : (decide (o.type = .property) && decide (trim o.property = "")) = true
    · exact .inl ⟨_, values.trans (if_pos unnamed), values'.trans (if_pos unnamed)⟩
    · have tests : (fun e => compare (o.valueOf e) operator' o.value) =
          fun e => (compare (o.valueOf e) operator o.value).map (!·) :=
        funext fun e => compare_opposite opposite _ _
      have kept : (o.withOperator operator).keep elements =
          keepWhere (fun e => compare (o.valueOf e) operator o.value) elements :=
        values.trans (if_neg unnamed)
      have kept' : (o.withOperator operator').keep elements =
          keepWhere (fun e => (compare (o.valueOf e) operator o.value).map (!·)) elements :=
        (values'.trans (if_neg unnamed)).trans (congrArg (keepWhere · elements) tests)
      rw [kept, kept']
      obtain failed | parted :=
        keepWhere_opposite (fun e => compare (o.valueOf e) operator o.value) elements
      · exact .inl failed
      · exact .inr ⟨_, parted⟩

/-- Filters with opposite operators both fail, and with the same fault if their type supports the
operators, or each element passes exactly one of them; the elements stay in order, and the model is
kept. -/
theorem parts_of_opposite (inputs : Inputs) :
    (∃ fault fault', (o.withOperator operator).evaluate inputs = .error fault ∧
      (o.withOperator operator').evaluate inputs = .error fault' ∧
      (o.type.operators.contains operator = true → fault = fault')) ∨
    ∃ source, inputs.main = .ok source ∧ ∃ passes : Element → Bool,
      (o.withOperator operator).evaluate inputs =
        .ok (.elements ⟨source.elements.filter passes, source.model⟩) ∧
      (o.withOperator operator').evaluate inputs =
        .ok (.elements ⟨source.elements.filter (!passes ·), source.model⟩) := by
  by_cases supported : o.type.operators.contains operator = true
  · have supported' := (contains_opposite opposite o.type).trans supported
    rw [evaluate_of_supported (o := o.withOperator operator) supported,
      evaluate_of_supported (o := o.withOperator operator') supported']
    cases inputs.main with
    | error fault => exact .inl ⟨fault, fault, rfl, rfl, fun _ => rfl⟩
    | ok source =>
        obtain ⟨fault, failed, failed'⟩ | ⟨passes, kept, kept'⟩ :=
          keep_opposite opposite o supported source.elements
        · left
          refine ⟨fault, fault, ?_, ?_, fun _ => rfl⟩
          · exact congrArg (Except.map _) failed
          · exact congrArg (Except.map _) failed'
        · right
          refine ⟨source, rfl, passes, ?_, ?_⟩
          · exact congrArg (Except.map _) kept
          · exact congrArg (Except.map _) kept'
  · have unsupported := Bool.not_eq_true _ ▸ supported
    have unsupported' := (contains_opposite opposite o.type).trans unsupported
    obtain ⟨fault, failed⟩ :=
      evaluate_of_unsupported (o := o.withOperator operator) unsupported inputs
    obtain ⟨fault', failed'⟩ :=
      evaluate_of_unsupported (o := o.withOperator operator') unsupported' inputs
    exact .inl ⟨fault, fault', failed, failed', fun known => absurd known supported⟩

end Opposite

/-- A wall with or without a load. -/
def loadedWall (expressId : Int) (load : Option Value) : Element :=
  .create expressId "IfcWall" (.ofList (load.map fun v => ("Load", v)).toList) .empty .empty []

def loadFilter : FilterOptions := ⟨.property, "Load", .equals, "5", none⟩

/-- A number is five, a text is not, and a wall without a load has none. -/
theorem parts_of_opposite_loads :
    let walls := [loadedWall 1 (some (.float 5)), loadedWall 2 (some (.text "05")),
      loadedWall 3 none]
    FilterOperator.Opposite .equals .notEquals ∧ ∃ passes : Element → Bool,
      (loadFilter.withOperator .equals).evaluate (.feeding ⟨walls, none⟩) =
        .ok (.elements ⟨walls.filter passes, none⟩) ∧
      (loadFilter.withOperator .notEquals).evaluate (.feeding ⟨walls, none⟩) =
        .ok (.elements ⟨walls.filter (!passes ·), none⟩) ∧
      (walls.filter passes).map Element.id = ["1-IFCWALL"] := by
  intro walls
  have ids : ((loadFilter.withOperator .equals).evaluate (.feeding ⟨walls, none⟩)
      >>= collectionOf mainInlet).toOption.map (·.elements.map Element.id) =
        some ["1-IFCWALL"] := by
    decide +kernel
  refine ⟨.equals, ?_⟩
  obtain ⟨fault, -, failed, -⟩ | ⟨source, main, passes, kept, kept'⟩ :=
    parts_of_opposite .equals loadFilter (.feeding ⟨walls, none⟩)
  · rw [failed] at ids
    cases ids
  · rw [Inputs.main_feeding] at main
    cases main
    rw [kept] at ids
    exact ⟨passes, kept, kept', Option.some.inj ids⟩

end FilterOptions

end BuildingWorkflow
