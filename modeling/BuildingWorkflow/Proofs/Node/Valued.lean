import BuildingWorkflow.Run.Turn

/-!
Evaluations make values.

A marker is never the result of an evaluation whose inputs are free of markers. Only nodes that pass
on what they are fed could hand one on. What the engine makes of a failed evaluation is a failure
and no other marker. When whoever is asked answers, every evaluation ends.
-/
namespace BuildingWorkflow

/-- A result, if there is one, is no marker. -/
def Valued (outcome : Except Fault NodeResult) : Prop :=
  ∀ result, outcome = .ok result → result.isError = false

theorem valued_ok {result : NodeResult} (h : result.isError = false) : Valued (.ok result) := by
  intro other same
  rwa [← Except.ok.inj same]

theorem valued_error (fault : Fault) : Valued (.error fault) := nofun

theorem valued_bind {α : Type} (x : Except Fault α) {f : α → Except Fault NodeResult}
    (h : ∀ a, Valued (f a)) : Valued (x >>= f) := by
  cases x with
  | ok a => exact h a
  | error fault => exact valued_error fault

theorem valued_ite {c : Prop} [Decidable c] {x y : Except Fault NodeResult} (hx : Valued x)
    (hy : Valued y) : Valued (if c then x else y) := by
  split
  · exact hx
  · exact hy

theorem valued_elements (x : Except Fault Collection) : Valued (x.map .elements) := by
  cases x with
  | ok c => exact valued_ok rfl
  | error fault => exact valued_error fault

/-- No marker feeds the node. -/
def Inputs.Clean (inputs : Inputs) : Prop :=
  ∀ inlet, ∀ result ∈ inputs.results inlet, result.isError = false

section Handlers

variable (inputs : Inputs)

theorem ParameterOptions.valued (o : ParameterOptions) : Valued o.evaluate :=
  valued_bind _ fun _ => valued_ok rfl

theorem GeometryOptions.valued (o : GeometryOptions) : Valued (o.evaluate inputs) :=
  valued_bind _ fun _ => valued_ok rfl

theorem TransformOptions.valued (o : TransformOptions) : Valued (o.evaluate inputs) :=
  valued_bind _ fun _ => valued_ok rfl

theorem FilterOptions.valued (o : FilterOptions) : Valued (o.evaluate inputs) := by
  refine valued_ite (valued_error _) (valued_bind _ fun source => ?_)
  split
  · exact valued_ite (valued_error _) (valued_ok rfl)
  · exact valued_ite (valued_error _) (valued_bind _ fun _ => valued_ok rfl)

theorem QuantityOptions.valued (o : QuantityOptions) : Valued (o.evaluate inputs) :=
  valued_bind _ fun _ => valued_ite (valued_ok rfl) (valued_bind _ fun _ => valued_ok rfl)

theorem PropertyOptions.valued (o : PropertyOptions) : Valued (o.evaluate inputs) :=
  valued_bind _ fun _ => valued_ite (valued_ok rfl) (valued_bind _ fun _ => valued_ok rfl)

theorem ClassificationOptions.valued (o : ClassificationOptions) : Valued (o.evaluate inputs) :=
  valued_bind _ fun _ => valued_ok rfl

theorem SpatialOptions.valued (o : SpatialOptions) : Valued (o.evaluate inputs) :=
  valued_bind _ fun _ => valued_bind _ fun _ => valued_ite (valued_ok rfl)
    (valued_ite (valued_ok rfl) (valued_bind _ fun _ => valued_ok rfl))

theorem RelationshipOptions.valued (o : RelationshipOptions) : Valued (o.evaluate inputs) :=
  valued_bind _ fun _ => valued_bind _ fun _ => valued_ok rfl

theorem AnalysisOptions.valued (o : AnalysisOptions) : Valued (o.evaluate inputs) :=
  valued_bind _ fun _ => valued_ite (valued_error _) (valued_bind _ fun _ => valued_ok rfl)

theorem ExportOptions.valued_evaluateText (o : ExportOptions) : Valued (o.evaluateText inputs) :=
  valued_bind _ fun _ => valued_ok rfl

theorem valued_passThrough {inputs : Inputs} (clean : inputs.Clean) :
    Valued (passThrough inputs) := by
  have clean := clean mainInlet
  unfold passThrough
  split
  · exact valued_ok rfl
  · rename_i result fed
    rw [fed] at clean
    exact valued_ok (clean result (List.mem_singleton_self result))
  · exact valued_ite (valued_elements _) (valued_error _)

end Handlers

theorem bind_eq_ok {ε α β : Type} {x : Except ε α} {f : α → Except ε β} {b : β}
    (h : x >>= f = .ok b) : ∃ a, x = .ok a ∧ f a = .ok b := by
  cases x with
  | ok a => exact ⟨a, rfl, h⟩
  | error fault => cases h

theorem bind_of_eq_ok {ε α β : Type} {x : Except ε α} {f : α → Except ε β} {a : α}
    (h : x = .ok a) : x >>= f = f a := by
  rw [h]
  rfl

theorem Answer.ofExcept_eq_value {α : Type} {x : Except Fault α} {a : α}
    (h : Answer.ofExcept x = .value a) : x = .ok a := by
  cases x with
  | ok b => cases h; rfl
  | error fault => cases h

theorem Answer.bind_eq_value {α β : Type} {x : Answer α} {f : α → Answer β} {b : β}
    (h : x >>= f = .value b) : ∃ a, x = .value a ∧ f a = .value b := by
  cases x with
  | value a => exact ⟨a, rfl, h⟩
  | raised fault => cases h
  | silent => cases h

theorem SourceOptions.isError_of_evaluate {o : SourceOptions} {help : Collaborators}
    {result : NodeResult} (h : o.evaluate help = .value result) : result.isError = false := by
  obtain ⟨model, -, done⟩ := Answer.bind_eq_value h
  cases done
  rfl

theorem ExportOptions.isError_of_evaluate {o : ExportOptions} {inputs : Inputs}
    {help : Collaborators} {result : NodeResult} (h : o.evaluate inputs help = .value result) :
    result.isError = false := by
  unfold evaluate at h
  split at h
  · exact o.valued_evaluateText inputs result (Answer.ofExcept_eq_value h)
  · unfold evaluateNative at h
    split at h
    · cases h
    · obtain ⟨request, -, h⟩ := Answer.bind_eq_value h
      obtain ⟨payload, -, h⟩ := Answer.bind_eq_value h
      cases h
      rfl

theorem NodeOptions.isError_of_evaluate {options : NodeOptions} {inputs : Inputs}
    {help : Collaborators} (clean : inputs.Clean) {result : NodeResult}
    (h : options.evaluate inputs help = .value result) : result.isError = false := by
  cases options with
  | source o => exact o.isError_of_evaluate h
  | parameter o => exact o.valued result (Answer.ofExcept_eq_value h)
  | geometry o => exact o.valued inputs result (Answer.ofExcept_eq_value h)
  | filter o => exact o.valued inputs result (Answer.ofExcept_eq_value h)
  | transform o => exact o.valued inputs result (Answer.ofExcept_eq_value h)
  | quantity o => exact o.valued inputs result (Answer.ofExcept_eq_value h)
  | property o => exact o.valued inputs result (Answer.ofExcept_eq_value h)
  | classification o => exact o.valued inputs result (Answer.ofExcept_eq_value h)
  | spatial o => exact o.valued inputs result (Answer.ofExcept_eq_value h)
  | relationship o => exact o.valued inputs result (Answer.ofExcept_eq_value h)
  | analysis o => exact o.valued inputs result (Answer.ofExcept_eq_value h)
  | exporter o => exact o.isError_of_evaluate h
  | watch o => exact valued_passThrough clean result (Answer.ofExcept_eq_value h)
  | viewer o => exact valued_passThrough clean result (Answer.ofExcept_eq_value h)

/-! ## Ends of evaluations -/

/-- A value, or the failure of an evaluation: nothing that only the engine marks nodes with. -/
def NodeResult.Own (result : NodeResult) : Prop :=
  result.isError = false ∨ ∃ error errorType, result = .failed error errorType

@[simp] theorem NodeResult.isError_labelled (id : String) (result : NodeResult) :
    (result.labelled id).isError = result.isError := by
  cases result <;> rfl

theorem own_failureOf (fault : Fault) : (failureOf fault).Own := by
  unfold failureOf
  split
  · exact .inr ⟨_, _, rfl⟩
  · exact .inr ⟨_, _, rfl⟩

theorem Engine.own_expired (id : String) (seconds : Binary64) : (expired id seconds).Own :=
  .inr ⟨_, _, rfl⟩

theorem Collaborators.own_of_result? {help : Collaborators} {node : Node} {inputs : Inputs}
    {result : NodeResult} (clean : inputs.Clean) (h : help.result? node inputs = some result) :
    result.Own := by
  unfold result? at h
  split at h
  · rename_i value evaluated
    rw [← Option.some.inj h]
    exact .inl ((value.isError_labelled _).trans (NodeOptions.isError_of_evaluate clean evaluated))
  · rw [← Option.some.inj h]
    exact own_failureOf _
  · cases h

theorem Engine.own_of_result? {engine : Engine} {node : Node} {inputs : Inputs}
    {result : NodeResult} (clean : inputs.Clean) (h : engine.result? node inputs = some result) :
    result.Own := by
  obtain answered | ⟨-, givenUp⟩ := Option.or_eq_some_iff.mp h
  · exact Collaborators.own_of_result? clean answered
  · obtain ⟨seconds, -, rfl⟩ := Option.map_eq_some_iff.mp givenUp
    exact own_expired node.id seconds

theorem NodeResult.Own.ne_cancelled {result : NodeResult} (h : result.Own) :
    result ≠ .cancelled := by
  rintro rfl
  obtain valued | ⟨error, errorType, failed⟩ := h
  · cases valued
  · cases failed

theorem Answer.ofExcept_ne_silent {α : Type} (x : Except Fault α) :
    Answer.ofExcept x ≠ .silent := by
  cases x with
  | ok a => exact nofun
  | error fault => exact nofun

theorem Answer.bind_ne_silent {α β : Type} {x : Answer α} {f : α → Answer β} (hx : x ≠ .silent)
    (hf : ∀ a, f a ≠ .silent) : x >>= f ≠ .silent := by
  cases x with
  | value a => exact hf a
  | raised fault => exact nofun
  | silent => exact absurd rfl hx

namespace Collaborators.Answering

variable {help : Collaborators} (answering : help.Answering)

include answering

theorem evaluateNative_ne_silent (o : ExportOptions) (inputs : Inputs) :
    o.evaluateNative inputs help ≠ .silent := by
  unfold ExportOptions.evaluateNative
  split
  · exact nofun
  · rename_i write configured
    refine Answer.bind_ne_silent (Answer.ofExcept_ne_silent _) fun request => ?_
    refine Answer.bind_ne_silent (fun silent => ?_) fun payload => nofun
    cases answer : write request with
    | value payload => rw [answer] at silent; cases silent
    | raised fault => rw [answer] at silent; cases silent
    | silent => exact answering.writer write configured request answer

theorem evaluate_ne_silent (options : NodeOptions) (inputs : Inputs) :
    options.evaluate inputs help ≠ .silent := by
  cases options with
  | source o => exact Answer.bind_ne_silent (answering.provider _) fun _ => nofun
  | exporter o =>
      simp only [NodeOptions.evaluate, ExportOptions.evaluate]
      split
      · exact Answer.ofExcept_ne_silent _
      · exact answering.evaluateNative_ne_silent o inputs
  | parameter _ | geometry _ | filter _ | transform _ | quantity _ | property _ | classification _
  | spatial _ | relationship _ | analysis _ | watch _ | viewer _ =>
      exact Answer.ofExcept_ne_silent _

theorem exists_result? (node : Node) (inputs : Inputs) :
    ∃ result, help.result? node inputs = some result := by
  unfold result?
  split
  · exact ⟨_, rfl⟩
  · exact ⟨_, rfl⟩
  · exact absurd ‹_› (answering.evaluate_ne_silent node.options inputs)

end Collaborators.Answering

theorem Engine.exists_result? {engine : Engine} (answering : engine.help.Answering) (node : Node)
    (inputs : Inputs) : ∃ result, engine.result? node inputs = some result := by
  obtain ⟨result, answered⟩ := answering.exists_result? node inputs
  exact ⟨result, by rw [Engine.result?, answered, Option.some_or]⟩

/-- Every evaluation ends: whoever is asked answers, or else a time is up. -/
def Engine.Finishing (engine : Engine) : Prop := engine.help.Answering ∨ engine.timeout.isSome

theorem Engine.Finishing.exists_result? {engine : Engine} (finishing : engine.Finishing)
    (node : Node) (inputs : Inputs) : ∃ result, engine.result? node inputs = some result := by
  cases finishing with
  | inl answering => exact Engine.exists_result? answering node inputs
  | inr timed =>
      obtain ⟨seconds, given⟩ := Option.isSome_iff_exists.mp timed
      cases answered : engine.help.result? node inputs <;> simp [Engine.result?, answered, given]

/-- An engine that has no models. -/
def Engine.unprovided : Engine where
  help := { provider := fun name => .raised (.modelNotFound name), writer := none }
  slots := 1
  timeout := none

theorem Engine.answering_unprovided : unprovided.help.Answering where
  provider _ := nofun
  writer _ configured := nomatch configured

end BuildingWorkflow
