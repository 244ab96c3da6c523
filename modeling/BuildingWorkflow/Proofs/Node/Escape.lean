import BuildingWorkflow.Proofs.Node.Property
import BuildingWorkflow.Proofs.Node.Unexpected
import BuildingWorkflow.Proofs.Options.Rereading

/-!
What an evaluation comes to.

A node with options that were read comes to a result or to a fault of nodes, on every input, if those
that it asks do. `Escapes` lists what else may happen, and it does happen whenever it is listed. No
other fault gets out of a node.
-/
namespace BuildingWorkflow

/-! ## Distances -/

namespace SpatialOptions

variable {o : SpatialOptions}

/-- A query that was read has a distance from zero on. -/
theorem atMost_distance {kind : NodeKind} {raw : Value}
    (taken : NodeOptions.ofValue kind raw = .ok (.spatial o)) : Binary64.atMost 0 o.distance := by
  obtain ⟨bag, read⟩ := NodeOptions.exists_read_of_ofValue taken
  exact Binary64.ofInt_zero ▸ NodeOptions.bounded_of_read read

end SpatialOptions

/-! ## Evaluations -/

/-- A fault that is not one of nodes, out of an evaluation. -/
inductive Escapes (inputs : Inputs) : NodeOptions → Fault → Prop
  | parameter {o : ParameterOptions} (type : o.type = .number) (large : o.value.Oversized) :
      Escapes inputs (.parameter o) .integerTooLarge
  | filter {o : FilterOptions} {source : Collection} {e : Element} {v : Value}
      (compares : o.Compares) (main : inputs.main = .ok source) (member : e ∈ source.elements)
      (found : o.valueOf e = some v) (measures : o.operator.Measures v o.value)
      (large : v.Oversized) : Escapes inputs (.filter o) .integerTooLarge
  | quantity {o : QuantityOptions} {source : Collection} {e : Element}
      (main : inputs.main = .ok source) (member : e ∈ source.elements)
      (large : MeetsOversized (e.recorded o.measure)) :
      Escapes inputs (.quantity o) .integerTooLarge
  | spatial {o : SpatialOptions} {source references : Collection}
      (main : inputs.main = .ok source)
      (referred : inputs.collection referenceInlet = .ok references)
      (shares : o.Shares references.elements) (many : endOfWhole ≤ source.elements.length) :
      Escapes inputs (.spatial o) .integerTooLarge
  | relationship {o : RelationshipOptions} {source : Collection}
      (main : inputs.main = .ok source) (many : endOfWhole ≤ source.elements.length) :
      Escapes inputs (.relationship o) .integerTooLarge
  | space {o : AnalysisOptions} {source : Collection} {fault : Fault} (type : o.type = .space)
      (main : inputs.main = .ok source) (failed : SpaceFault o.metric source.elements fault) :
      Escapes inputs (.analysis o) fault
  | analysis {o : AnalysisOptions} {source : Collection} (shares : o.type.Shares)
      (main : inputs.main = .ok source) (many : endOfWhole ≤ source.elements.length) :
      Escapes inputs (.analysis o) .integerTooLarge

/-- An answer is a fault that is not one of nodes. -/
def Answer.Unexpected {α : Type} (answer : Answer α) (fault : Fault) : Prop :=
  answer = .raised fault ∧ fault.isNodeFault = false

namespace Answer

variable {α β : Type} {fault : Fault}

theorem unexpected_ofExcept {x : Except Fault α} :
    (ofExcept x).Unexpected fault ↔ BuildingWorkflow.Unexpected x fault := by
  cases x <;> simp [Answer.Unexpected, BuildingWorkflow.Unexpected, ofExcept]

theorem not_unexpected_bind {x : Answer α} {f : α → Answer β} (first : ¬ x.Unexpected fault)
    (next : ∀ a, ¬ (f a).Unexpected fault) : ¬ (x >>= f).Unexpected fault := by
  rintro ⟨failed, unknown⟩
  cases x with
  | value a => exact next a ⟨failed, unknown⟩
  | raised known =>
      cases failed
      exact first ⟨rfl, unknown⟩
  | silent => cases failed

theorem not_unexpected_mapFault {x : Answer α} {f : Fault → Fault}
    (known : ∀ fault, (f fault).isNodeFault = true) : ¬ (x.mapFault f).Unexpected fault := by
  rintro ⟨failed, unknown⟩
  cases x with
  | value a => cases failed
  | silent => cases failed
  | raised other =>
      cases failed
      rw [known other] at unknown
      cases unknown

end Answer

section Collaborators

variable {help : Collaborators} {inputs : Inputs} {fault : Fault}

theorem SourceOptions.not_unexpected (o : SourceOptions)
    (provided : ∀ name fault, help.provider name = .raised fault → fault.isNodeFault = true) :
    ¬ (o.evaluate help).Unexpected fault := by
  refine Answer.not_unexpected_bind ?_ fun _ => nofun
  rintro ⟨failed, unknown⟩
  rw [provided _ _ failed] at unknown
  cases unknown

theorem ExportOptions.isNodeFault_failure (o : ExportOptions) (fault : Fault) :
    (o.failure fault).isNodeFault = true := by
  cases fault <;> rfl

/-- All faults of a writer are passed on as failures of the export. -/
theorem ExportOptions.not_unexpected (o : ExportOptions) :
    ¬ (o.evaluate inputs help).Unexpected fault := by
  unfold evaluate
  split
  · exact mt Answer.unexpected_ofExcept.mp (o.expected_evaluateText inputs).not_unexpected
  · unfold evaluateNative
    split
    · rintro ⟨same, unknown⟩
      cases same
      cases unknown
    · refine Answer.not_unexpected_bind ?_ fun request => ?_
      · exact mt Answer.unexpected_ofExcept.mp (o.expected_request inputs).not_unexpected
      · exact Answer.not_unexpected_bind
          (Answer.not_unexpected_mapFault o.isNodeFault_failure) fun _ => nofun

/-- A node that meets with expected faults alone, and from which nothing escapes. -/
theorem Expected.unexpected_iff_escapes {options : NodeOptions} {x : Except Fault NodeResult}
    (h : Expected x) (kept : ¬ Escapes inputs options fault) :
    (Answer.ofExcept x).Unexpected fault ↔ Escapes inputs options fault :=
  Answer.unexpected_ofExcept.trans (iff_of_false h.not_unexpected kept)

theorem NodeOptions.unexpected_iff {kind : NodeKind} {raw : Value} {options : NodeOptions}
    (taken : ofValue kind raw = .ok options)
    (provided : ∀ name fault, help.provider name = .raised fault → fault.isNodeFault = true) :
    (options.evaluate inputs help).Unexpected fault ↔ Escapes inputs options fault := by
  cases options with
  | source o => exact iff_of_false (o.not_unexpected provided) nofun
  | exporter o => exact iff_of_false o.not_unexpected nofun
  | geometry o => exact (o.expected inputs).unexpected_iff_escapes nofun
  | transform o => exact (o.expected inputs).unexpected_iff_escapes nofun
  | property o => exact (o.expected inputs).unexpected_iff_escapes nofun
  | classification o => exact (o.expected inputs).unexpected_iff_escapes nofun
  | watch o => exact (expected_passThrough inputs).unexpected_iff_escapes nofun
  | viewer o => exact (expected_passThrough inputs).unexpected_iff_escapes nofun
  | parameter o =>
      refine Answer.unexpected_ofExcept.trans (ParameterOptions.unexpected_iff.trans ?_)
      constructor
      · rintro ⟨type, large, rfl⟩
        exact .parameter type large
      · intro h
        cases h with
        | parameter type large => exact ⟨type, large, rfl⟩
  | filter o =>
      refine Answer.unexpected_ofExcept.trans (FilterOptions.unexpected_iff.trans ?_)
      constructor
      · rintro ⟨compares, ⟨source, main, e, member, v, found, measures, large⟩, rfl⟩
        exact .filter compares main member found measures large
      · intro h
        cases h with
        | filter compares main member found measures large =>
            exact ⟨compares, ⟨_, main, _, member, _, found, measures, large⟩, rfl⟩
  | quantity o =>
      refine Answer.unexpected_ofExcept.trans (QuantityOptions.unexpected_iff.trans ?_)
      constructor
      · rintro ⟨⟨source, main, e, member, large⟩, rfl⟩
        exact .quantity main member large
      · intro h
        cases h with
        | quantity main member large => exact ⟨⟨_, main, _, member, large⟩, rfl⟩
  | spatial o =>
      refine Answer.unexpected_ofExcept.trans
        ((SpatialOptions.unexpected_iff (SpatialOptions.atMost_distance taken)).trans ?_)
      constructor
      · rintro ⟨⟨source, main, references, referred, shares, many⟩, rfl⟩
        exact .spatial main referred shares many
      · intro h
        cases h with
        | spatial main referred shares many =>
            exact ⟨⟨_, main, _, referred, shares, many⟩, rfl⟩
  | relationship o =>
      refine Answer.unexpected_ofExcept.trans (RelationshipOptions.unexpected_iff.trans ?_)
      constructor
      · rintro ⟨⟨source, main, many⟩, rfl⟩
        exact .relationship main many
      · intro h
        cases h with
        | relationship main many => exact ⟨⟨_, main, many⟩, rfl⟩
  | analysis o =>
      refine Answer.unexpected_ofExcept.trans (AnalysisOptions.unexpected_iff.trans ?_)
      constructor
      · rintro ⟨source, main, failed⟩
        obtain ⟨type, failed⟩ | ⟨shares, many, rfl⟩ :=
          AnalysisOptions.unexpected_report_iff.mp failed
        · exact .space type main failed
        · exact .analysis shares main many
      · intro h
        cases h with
        | space type main failed =>
            exact ⟨_, main, AnalysisOptions.unexpected_report_iff.mpr (.inl ⟨type, failed⟩)⟩
        | analysis shares main many =>
            exact ⟨_, main, AnalysisOptions.unexpected_report_iff.mpr (.inr ⟨shares, many, rfl⟩)⟩

end Collaborators

/-- A filter for small loads. -/
def FilterOptions.light : FilterOptions := ⟨.property, "Load", .lessThan, "5", none⟩

theorem NodeOptions.ofValue_light : ofValue .filter
    (.map [("property", .text "Load"), ("operator", .text "lessThan"), ("value", .text "5")]) =
      .ok (.filter .light) := rfl

def Inputs.overloaded : Inputs :=
  let wall := { PropertyOptions.measuredWall with properties := .ofList [("Load", overload)] }
  .ofList [(mainInlet, [.elements ⟨[wall], none⟩])]

theorem escapes_overloaded : Escapes .overloaded (.filter .light) .integerTooLarge :=
  .filter ⟨rfl, nofun, fun _ => by decide⟩ rfl (List.mem_singleton_self _) rfl (.inr (.inl rfl))
    oversized_overload

theorem Engine.isNodeFault_unprovided (name : Option String) (fault : Fault)
    (raised : unprovided.help.provider name = .raised fault) : fault.isNodeFault = true := by
  cases raised
  rfl

theorem Inputs.clean_overloaded : Inputs.overloaded.Clean := by
  intro inlet result fed
  rw [results, overloaded, OrderedMap.find?_ofList (by simp)] at fed
  by_cases main : inlet = mainInlet
  · subst main
    obtain rfl := List.mem_singleton.mp fed
    rfl
  · simp [lookup_cons_ite, main] at fed

end BuildingWorkflow
