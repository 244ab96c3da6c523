import BuildingWorkflow.Proofs.Graph.Fields
import BuildingWorkflow.Proofs.Node.Overflow
import BuildingWorkflow.Proofs.Node.Valued
import BuildingWorkflow.Proofs.Number.Amount

/-!
Faults that nobody expects of a node.

Whatever a node is fed, it comes to a result or to a fault of nodes, when those it asks do so too.
There are exceptions, and all of them are of numbers: a whole number beyond the largest float where
a value is read as a number, and a total area that is not finite where persons are counted.
-/
namespace BuildingWorkflow

/-- Every fault of an outcome is one of nodes. -/
def Expected {α : Type} (outcome : Except Fault α) : Prop :=
  ∀ fault, outcome = .error fault → fault.isNodeFault = true

/-- An outcome is a fault that is not one of nodes. -/
def Unexpected {α : Type} (outcome : Except Fault α) (fault : Fault) : Prop :=
  outcome = .error fault ∧ fault.isNodeFault = false

section Outcomes

variable {α β : Type} {x : Except Fault α} {f : α → Except Fault β} {fault : Fault}

theorem expected_ok (a : α) : Expected (.ok a) := nofun

theorem expected_error (known : fault.isNodeFault = true) :
    Expected (.error fault : Except Fault α) := by
  intro other same
  rwa [← Except.error.inj same]

theorem Expected.bind (h : Expected x) (next : ∀ a, Expected (f a)) : Expected (x >>= f) := by
  cases x with
  | ok a => exact next a
  | error known => exact expected_error (h known rfl)

theorem Expected.map (h : Expected x) (f : α → β) : Expected (x.map f) := by
  cases x with
  | ok a => exact expected_ok _
  | error known => exact expected_error (h known rfl)

theorem expected_ite {c : Prop} [Decidable c] {y : Except Fault α} (hx : Expected x)
    (hy : Expected y) : Expected (if c then x else y) := by
  split
  · exact hx
  · exact hy

theorem Expected.not_unexpected (h : Expected x) : ¬ Unexpected x fault := by
  rintro ⟨failed, unknown⟩
  rw [h fault failed] at unknown
  cases unknown

theorem unexpected_bind : Unexpected (x >>= f) fault ↔
    Unexpected x fault ∨ ∃ a, x = .ok a ∧ Unexpected (f a) fault := by
  cases x with
  | ok a => simp [Unexpected, Bind.bind, Except.bind]
  | error known => simp [Unexpected, Bind.bind, Except.bind]

/-- What is made of a value in the end brings no fault. -/
theorem unexpected_return {f : α → β} : Unexpected (x >>= fun a => .ok (f a)) fault ↔
    Unexpected x fault :=
  unexpected_bind.trans (or_iff_left fun ⟨_, _, failed⟩ => (expected_ok _).not_unexpected failed)

/-- A step that meets with expected faults alone. -/
theorem Expected.unexpected_bind (h : Expected x) : Unexpected (x >>= f) fault ↔
    ∃ a, x = .ok a ∧ Unexpected (f a) fault := by
  rw [BuildingWorkflow.unexpected_bind, or_iff_right h.not_unexpected]

theorem Overflows.unexpected_iff {p : Prop} (h : Overflows x p) :
    Unexpected x fault ↔ p ∧ fault = .integerTooLarge := by
  rw [Unexpected, h fault]
  refine ⟨And.left, fun failed => ⟨failed, ?_⟩⟩
  rw [failed.2]
  rfl

/-- Steps after which only expected faults come. -/
theorem Overflows.unexpected_bind {p : Prop} (h : Overflows x p) (next : ∀ a, Expected (f a)) :
    Unexpected (x >>= f) fault ↔ p ∧ fault = .integerTooLarge := by
  rw [BuildingWorkflow.unexpected_bind, h.unexpected_iff]
  exact or_iff_left fun ⟨a, _, failed⟩ => (next a).not_unexpected failed

/-- A step that overflows, after one that meets with expected faults alone. -/
theorem Expected.overflows_next (h : Expected x) {p : α → Prop}
    (next : ∀ a, Overflows (f a) (p a)) :
    Unexpected (x >>= f) fault ↔ (∃ a, x = .ok a ∧ p a) ∧ fault = .integerTooLarge := by
  simp only [h.unexpected_bind, (next _).unexpected_iff, ← and_assoc, exists_and_right]

theorem unexpected_ite {c : Prop} [Decidable c] {y : Except Fault α} (hx : Expected x) :
    Unexpected (if c then x else y) fault ↔ ¬ c ∧ Unexpected y fault := by
  split
  · next holds => simp [holds, hx.not_unexpected]
  · next fails => simp [fails]

end Outcomes

/-! ## Nodes that are never surprised -/

theorem expected_mergeCollections (inlet : String) (results : List NodeResult) :
    Expected (mergeCollections inlet results) := by
  induction results with
  | nil => exact expected_ok _
  | cons result rest ih =>
      have first : Expected (collectionOf inlet result) := by
        cases result with
        | elements c => exact expected_ok c
        | aggregate _ _ | value _ | text _ _ _ | binary _ _ _ | failed _ _ | blocked _ | cancelled =>
            exact expected_error rfl
      exact first.bind fun _ => ih.bind fun _ => expected_ok _

section Handlers

variable (inputs : Inputs)

theorem Inputs.expected_collection (inlet : String) : Expected (inputs.collection inlet) :=
  expected_mergeCollections _ _

theorem Inputs.expected_main : Expected inputs.main := inputs.expected_collection _

theorem GeometryOptions.expected (o : GeometryOptions) : Expected (o.evaluate inputs) :=
  inputs.expected_main.bind fun _ => expected_ok _

theorem TransformOptions.expected (o : TransformOptions) : Expected (o.evaluate inputs) :=
  inputs.expected_main.bind fun _ => expected_ok _

theorem ClassificationOptions.expected (o : ClassificationOptions) :
    Expected (o.evaluate inputs) :=
  inputs.expected_main.bind fun _ => expected_ok _

theorem expected_valueFrom (result : NodeResult) : Expected (valueFrom result) := by
  cases result with
  | value v => exact expected_ok v
  | aggregate values unit =>
      simp only [valueFrom]
      split
      · exact expected_ok _
      · exact expected_error rfl
  | elements c =>
      simp only [valueFrom]
      split
      · exact expected_ok _
      · exact expected_ite (expected_ok _) (expected_error rfl)
      · exact expected_error rfl
  | text _ _ _ | binary _ _ _ | failed _ _ | blocked _ | cancelled => exact expected_error rfl

theorem PropertyOptions.expected (o : PropertyOptions) : Expected (o.evaluate inputs) := by
  have value : Expected (o.valueFor inputs) := by
    unfold valueFor
    split
    · exact expected_valueFrom _
    · exact expected_ok _
  exact inputs.expected_main.bind fun _ => expected_ite (expected_ok _)
    (value.bind fun _ => expected_ok _)

theorem ExportOptions.expected_evaluateText (o : ExportOptions) :
    Expected (o.evaluateText inputs) :=
  inputs.expected_main.bind fun _ => expected_ok _

theorem ExportOptions.expected_request (o : ExportOptions) : Expected (o.request inputs) :=
  inputs.expected_main.bind fun _ => expected_ok _

theorem expected_passThrough : Expected (passThrough inputs) := by
  unfold passThrough
  split
  · exact expected_ok _
  · exact expected_ok _
  · exact expected_ite (inputs.expected_main.map _) (expected_error rfl)

end Handlers

/-! ## Numbers that are too large -/

section Numbers

variable {inputs : Inputs} {fault : Fault}

theorem unexpected_coerce_iff {type : ParameterType} {v : Value} :
    Unexpected (coerce type v) fault ↔
      type = .number ∧ v.Oversized ∧ fault = .integerTooLarge := by
  have plain {w : Value} : ¬ Unexpected (.ok w) fault := (expected_ok w).not_unexpected
  cases type with
  | number =>
      rw [and_iff_right rfl]
      refine v.overflows_number?.unexpected_bind fun found => ?_
      cases found with
      | none => exact expected_error rfl
      | some x => exact expected_ok _
  | boolean | list | text => cases v <;> simp [coerce, plain]

theorem ParameterOptions.unexpected_iff {o : ParameterOptions} : Unexpected o.evaluate fault ↔
    o.type = .number ∧ o.value.Oversized ∧ fault = .integerTooLarge := by
  unfold evaluate
  split
  · next other _ =>
    refine unexpected_return.trans (unexpected_coerce_iff.trans ?_)
    simp [other]
  · exact unexpected_return.trans unexpected_coerce_iff

/-- Whether a filter compares elements at all: its operator is one of its type, and it does not only
ask for a set or lack the name of a property. -/
structure FilterOptions.Compares (o : FilterOptions) : Prop where
  supported : o.type.operators.contains o.operator = true
  type : o.type ≠ .psetExists
  named : o.type = .property → trim o.property ≠ ""

theorem FilterOptions.evaluate_of_compares {o : FilterOptions} (h : o.Compares) :
    o.evaluate inputs = inputs.main >>= fun source =>
      (keepWhere (fun e => compare (o.valueOf e) o.operator o.value) source.elements).map
        fun kept => .elements (source.withElements kept) := by
  unfold evaluate
  simp only [h.supported, Bool.not_true, Bool.false_eq_true, if_false]
  refine congrArg (inputs.main >>= ·) (funext fun source => ?_)
  split
  · next sets => exact absurd sets h.type
  · next type _ =>
    rw [if_neg (by simpa using h.named)]
    cases keepWhere (fun e => compare (o.valueOf e) o.operator o.value) source.elements <;> rfl

theorem FilterOptions.expected_of_not_compares {o : FilterOptions} (h : ¬ o.Compares) :
    Expected (o.evaluate inputs) := by
  by_cases supported : o.type.operators.contains o.operator = true
  · refine expected_ite (expected_error rfl) (inputs.expected_main.bind fun source => ?_)
    split
    · exact expected_ite (expected_error rfl) (expected_ok _)
    · next type other =>
      have unnamed : o.type = .property ∧ trim o.property = "" := by
        by_contra named
        exact h ⟨supported, other, fun type blank => named ⟨type, blank⟩⟩
      have stopped : (decide (o.type = .property) && decide (trim o.property = "")) = true := by
        simp [unnamed]
      rw [if_pos stopped]
      exact expected_error rfl
  · unfold evaluate
    rw [if_pos (by simpa using supported)]
    exact expected_error rfl

theorem FilterOptions.unexpected_iff {o : FilterOptions} : Unexpected (o.evaluate inputs) fault ↔
    o.Compares ∧ (∃ source, inputs.main = .ok source ∧ ∃ e ∈ source.elements, ∃ v,
      o.valueOf e = some v ∧ o.operator.Measures v o.value ∧ v.Oversized) ∧
      fault = .integerTooLarge := by
  by_cases compares : o.Compares
  · rw [evaluate_of_compares compares, and_iff_right compares]
    exact inputs.expected_main.overflows_next fun source =>
      (overflows_keepWhere (fun e => overflows_compare _ _ _) _).map _
  · exact iff_of_false (expected_of_not_compares compares).not_unexpected fun h => compares h.1

theorem QuantityOptions.unexpected_iff {o : QuantityOptions} :
    Unexpected (o.evaluate inputs) fault ↔
    (∃ source, inputs.main = .ok source ∧
      ∃ e ∈ source.elements, MeetsOversized (e.recorded o.measure)) ∧
      fault = .integerTooLarge := by
  refine inputs.expected_main.overflows_next fun source => ?_
  split
  · next empty => exact (Overflows.ok _).congr (by simp [List.isEmpty_iff.mp empty])
  · exact (overflows_addUp _ _ _ _).andReturn fun _ _ => .ok _

theorem RelationshipOptions.isShare (o : RelationshipOptions) : o.relation.share.IsShare := by
  cases o.relation <;> exact isShare_tenths _ (by decide)

theorem RelationshipOptions.unexpected_iff {o : RelationshipOptions} :
    Unexpected (o.evaluate inputs) fault ↔
    (∃ source, inputs.main = .ok source ∧ endOfWhole ≤ source.elements.length) ∧
      fault = .integerTooLarge :=
  inputs.expected_main.overflows_next fun source =>
    (overflows_leadingShare o.isShare source.elements).andReturn fun _ _ => .ok _

/-- The share of the distance up to which a query reaches. -/
theorem amounts_withinDistance {distance : Binary64} (from_zero : Binary64.atMost 0 distance) :
    (Binary64.least 1 (distance / 5)).Amounts
      (Binary64.partUnits (5 * unitsPerOne) distance) := by
  have five : (5 : Binary64) = .finite false (5 * unitsPerOne) (by decide +kernel) := by
    decide +kernel
  rw [five]
  exact Binary64.amounts_least from_zero _ (Nat.le_mul_of_pos_left _ (by decide))

theorem SpatialOptions.isShare {o : SpatialOptions} (distance : Binary64.atMost 0 o.distance) :
    o.share.IsShare := by
  unfold share
  split
  · exact isShare_tenths _ (by decide)
  · exact isShare_tenths _ (by decide)
  · exact isShare_tenths _ (by decide)
  · exact isShare_tenths _ (by decide)
  · obtain ⟨negative, h, share, -⟩ := amounts_withinDistance distance
    exact ⟨negative, _, h, share, Binary64.partUnits_le _ _⟩

/-- Whether a query keeps a share of its elements: there are references, and none that an element is
matched with by its storey. -/
structure SpatialOptions.Shares (o : SpatialOptions) (references : List Element) : Prop where
  some : references ≠ []
  unmatched : ¬ ((o.query = .contained ∨ o.query = .containing) ∧
    references.any Element.isSpatial = true)

theorem endOfWhole_pos : 0 < endOfWhole := by decide +kernel

theorem SpatialOptions.unexpected_iff {o : SpatialOptions}
    (distance : Binary64.atMost 0 o.distance) : Unexpected (o.evaluate inputs) fault ↔
    (∃ source, inputs.main = .ok source ∧ ∃ references,
      inputs.collection referenceInlet = .ok references ∧ o.Shares references.elements ∧
        endOfWhole ≤ source.elements.length) ∧ fault = .integerTooLarge := by
  refine inputs.expected_main.unexpected_bind.trans (Iff.trans (exists_congr fun source =>
    and_congr_right fun _ => (inputs.expected_collection referenceInlet).overflows_next
      (p := fun references => o.Shares references.elements ∧ endOfWhole ≤ source.elements.length)
      fun references => ?_) ?_)
  · by_cases empty : (source.elements.isEmpty || references.elements.isEmpty) = true
    · rw [if_pos empty]
      refine (Overflows.ok _).congr (iff_of_false id fun ⟨shares, many⟩ => ?_)
      rw [Bool.or_eq_true, List.isEmpty_iff, List.isEmpty_iff] at empty
      obtain none | none := empty
      · rw [none] at many
        exact absurd many (Nat.not_le_of_gt endOfWhole_pos)
      · exact shares.some none
    · rw [if_neg empty]
      by_cases matched : ((decide (o.query = .contained) || decide (o.query = .containing)) &&
          references.elements.any Element.isSpatial) = true
      · rw [if_pos matched]
        refine (Overflows.ok _).congr (iff_of_false id fun ⟨shares, _⟩ => ?_)
        exact shares.unmatched (by simpa using matched)
      · rw [if_neg matched]
        have shares : o.Shares references.elements :=
          ⟨fun none => empty (by simp [none]), fun both => matched (by simpa using both)⟩
        exact ((overflows_leadingShare (isShare distance) source.elements).andReturn
          fun _ _ => .ok _).congr (and_iff_right shares).symm
  · simp only [← and_assoc, exists_and_right]

/-! ## Analyses -/

def SpaceMetric.measure : SpaceMetric → Measure
  | .volume => .volume
  | _ => .area

/-- How a report on spaces fails: too many elements, a measure that is too large, or a total area
without a whole part. -/
inductive SpaceFault (metric : SpaceMetric) (elements : List Element) : Fault → Prop
  | crowd (many : endOfWhole ≤ elements.length) : SpaceFault metric elements .integerTooLarge
  | measure {e : Element} (member : e ∈ elements)
      (large : MeetsOversized (e.recorded metric.measure)) :
      SpaceFault metric elements .integerTooLarge
  | infinite {negative : Bool} (persons : metric = .occupancy) (few : elements.length < endOfWhole)
      (area : spaceTotal .area 20 0 elements = .ok (.infinite negative)) :
      SpaceFault metric elements .wholeOfInfinity
  | nan {label : String} (persons : metric = .occupancy) (few : elements.length < endOfWhole)
      (area : spaceTotal .area 20 0 elements = .ok (.nan label)) :
      SpaceFault metric elements .wholeOfNan

theorem wholeFloor_div_ten {area : Binary64} : wholeFloor (area / 10) = .error fault ↔
    (∃ negative, area = .infinite negative) ∧ fault = .wholeOfInfinity ∨
      (∃ label, area = .nan label) ∧ fault = .wholeOfNan := by
  have ten : (10 : Binary64) = .finite false (10 * unitsPerOne) (by decide +kernel) := by
    decide +kernel
  rw [ten, wholeFloor_eq_error_iff]
  cases area with
  | nan label =>
      rw [show (.nan label / .finite _ _ _ : Binary64) = .nan "" from rfl]
      simp
  | infinite negative =>
      rw [show (.infinite negative / .finite _ _ _ : Binary64) = .infinite (negative != false)
        from rfl]
      simp
  | finite negative units h =>
      have least := Nat.le_mul_of_pos_left unitsPerOne (show 0 < 10 by decide)
      obtain ⟨s, u, r, finite⟩ := Binary64.IsFinite.div ⟨negative, units, h, rfl⟩ false _ least
      rw [finite]
      simp

theorem natAbs_lt_of_wholeFloor {x : Binary64} {n : Int} (h : wholeFloor x = .ok n) :
    n.natAbs < endOfWhole := by
  cases x with
  | nan label => cases h
  | infinite negative => cases h
  | finite negative units rep =>
      obtain ⟨m, whole, less⟩ := Binary64.IsFinite.exists_wholeFloor ⟨negative, units, rep, rfl⟩
      cases h.symm.trans whole
      exact less

theorem overflows_spaceReport {metric : SpaceMetric} (elements : List Element)
    (other : metric ≠ .occupancy) : Overflows (spaceReport metric elements)
      (endOfWhole ≤ elements.length ∨
        ∃ e ∈ elements, MeetsOversized (e.recorded metric.measure)) := by
  refine Overflows.andThen (fun _ => intToFloat_eq_error_iff) fun size _ => ?_
  cases metric with
  | occupancy => exact absurd rfl other
  | volume => exact (overflows_spaceTotal _ _ _ _).andReturn fun _ _ => .ok _
  | area | circulation => exact (overflows_spaceTotal _ _ _ _).andReturn fun _ _ => .ok _

/-- Persons are counted without a fault, unless the area has no whole part. -/
theorem unexpected_persons_iff {area : Binary64} :
    Unexpected (wholeFloor (area / 10)) fault ↔
      (∃ negative, area = .infinite negative) ∧ fault = .wholeOfInfinity ∨
        (∃ label, area = .nan label) ∧ fault = .wholeOfNan := by
  rw [Unexpected, wholeFloor_div_ten]
  refine and_iff_left_of_imp fun failed => ?_
  obtain ⟨-, rfl⟩ | ⟨-, rfl⟩ := failed <;> rfl

/-- The density comes without a fault: the persons are the whole part of a float. -/
theorem unexpected_occupancy_of_area {area : Binary64} : Unexpected (do
    let persons ← wholeFloor (area / 10)
    let density ← if area.isZero then pure 0 else do
      pure (((← intToFloat persons) / area).roundPlaces 4)
    return [("occupancy", Value.int persons), ("density", .float density)]) fault ↔
      Unexpected (wholeFloor (area / 10)) fault := by
  refine unexpected_bind.trans (or_iff_left fun ⟨persons, whole, failed⟩ => ?_)
  refine (expected_ite (expected_ok _) ?_).not_unexpected failed
  rw [intToFloat_of_lt (natAbs_lt_of_wholeFloor whole)]
  exact expected_ok _

theorem unexpected_occupancy_iff {elements : List Element} :
    Unexpected (spaceReport .occupancy elements) fault ↔
      SpaceFault .occupancy elements fault := by
  have size : Overflows (intToFloat elements.length) (endOfWhole ≤ elements.length) :=
    fun _ => intToFloat_eq_error_iff
  have total := overflows_spaceTotal .area 20 0 elements
  unfold spaceReport
  rw [unexpected_bind, size.unexpected_iff]
  simp only [unexpected_bind (x := spaceTotal _ _ _ _), total.unexpected_iff,
    unexpected_occupancy_of_area, unexpected_persons_iff]
  constructor
  · rintro (⟨many, rfl⟩ | ⟨x, counted, ⟨⟨e, member, large⟩, rfl⟩ | ⟨area, added, whole⟩⟩)
    · exact .crowd many
    · exact .measure member large
    · have few : elements.length < endOfWhole := by
        by_contra many
        cases counted.symm.trans (intToFloat_of_le (Nat.le_of_not_lt many))
      obtain ⟨⟨negative, rfl⟩, rfl⟩ | ⟨⟨label, rfl⟩, rfl⟩ := whole
      · exact .infinite rfl few added
      · exact .nan rfl few added
  · intro failed
    obtain few | many := Nat.lt_or_ge elements.length endOfWhole
    · refine .inr ⟨_, intToFloat_of_lt few, ?_⟩
      cases failed with
      | crowd many => exact absurd few (Nat.not_lt_of_ge many)
      | measure member large => exact .inl ⟨⟨_, member, large⟩, rfl⟩
      | infinite _ _ added => exact .inr ⟨_, added, .inl ⟨⟨_, rfl⟩, rfl⟩⟩
      | nan _ _ added => exact .inr ⟨_, added, .inr ⟨⟨_, rfl⟩, rfl⟩⟩
    · cases failed with
      | crowd many => exact .inl ⟨many, rfl⟩
      | measure member large => exact .inl ⟨many, rfl⟩
      | infinite _ few _ | nan _ few _ => exact absurd few (Nat.not_lt_of_ge many)

theorem unexpected_spaceReport_iff {metric : SpaceMetric} {elements : List Element} :
    Unexpected (spaceReport metric elements) fault ↔ SpaceFault metric elements fault := by
  by_cases persons : metric = .occupancy
  · rw [persons, unexpected_occupancy_iff]
  · rw [(overflows_spaceReport elements persons).unexpected_iff]
    constructor
    · rintro ⟨many | ⟨e, member, large⟩, rfl⟩
      · exact .crowd many
      · exact .measure member large
    · intro h
      cases h with
      | crowd many => exact ⟨.inl many, rfl⟩
      | measure member large => exact ⟨.inr ⟨_, member, large⟩, rfl⟩
      | infinite counted _ _ => exact absurd counted persons
      | nan counted _ _ => exact absurd counted persons

theorem SpaceFault.ne_nil {metric : SpaceMetric} {elements : List Element}
    (failed : SpaceFault metric elements fault) : elements ≠ [] := by
  rintro rfl
  cases failed with
  | crowd many => exact absurd many (Nat.not_le_of_gt endOfWhole_pos)
  | measure member _ => cases member
  | infinite _ _ area | nan _ _ area =>
      rw [spaceTotal, Binary64.zero_eq] at area
      cases area

/-- Whether an analysis keeps shares of its collection. -/
def AnalysisType.Shares (type : AnalysisType) : Prop := type = .adjacency ∨ type = .visibility

theorem AnalysisOptions.unexpected_report_iff {o : AnalysisOptions} {elements : List Element} :
    Unexpected (o.report inputs elements) fault ↔
      o.type = .space ∧ SpaceFault o.metric elements fault ∨
      o.type.Shares ∧ endOfWhole ≤ elements.length ∧ fault = .integerTooLarge := by
  unfold report
  cases o.type with
  | clash =>
      refine iff_of_false (Expected.not_unexpected ?_) (by simp [AnalysisType.Shares])
      refine (inputs.expected_collection _).bind fun references => ?_
      split
      · exact expected_error rfl
      · exact expected_ok _
  | path => exact iff_of_false (expected_ok _).not_unexpected (by simp [AnalysisType.Shares])
  | space => simp [AnalysisType.Shares, unexpected_spaceReport_iff]
  | adjacency =>
      simp [AnalysisType.Shares, (overflows_adjacencyReport elements).unexpected_iff]
  | visibility =>
      simp [AnalysisType.Shares, (overflows_visibilityReport elements).unexpected_iff]

theorem AnalysisOptions.unexpected_iff {o : AnalysisOptions} :
    Unexpected (o.evaluate inputs) fault ↔ ∃ source, inputs.main = .ok source ∧
      Unexpected (o.report inputs source.elements) fault := by
  refine inputs.expected_main.unexpected_bind.trans (exists_congr fun source =>
    and_congr_right fun _ => ?_)
  refine (unexpected_ite (expected_error rfl)).trans
    ((and_congr_right' unexpected_return).trans ?_)
  refine and_iff_right_of_imp fun failed empty => ?_
  rw [List.isEmpty_iff] at empty
  rw [empty] at failed
  obtain ⟨-, failed⟩ | ⟨-, many, -⟩ := unexpected_report_iff.mp failed
  · exact failed.ne_nil rfl
  · exact absurd many (Nat.not_le_of_gt endOfWhole_pos)

end Numbers

end BuildingWorkflow
