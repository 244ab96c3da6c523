import BuildingWorkflow.Proofs.Node.Valued

/-!
Elements keep their identity.

Every kind of node but sources takes its elements from its main inlet. It may drop some and attach
things to others, but it does not reorder or repeat them, and what an element is called and which
class it has stay as they are.
-/
namespace BuildingWorkflow

/-- What tells an element apart in its model, and its class. -/
def Element.identity (e : Element) : String × Int × String := (e.id, e.expressId, e.type)

/-- A collection has some of the elements of another one, in the same order, and the same model.
What is attached to the elements does not count. -/
structure Collection.Within (c source : Collection) : Prop where
  model : c.model = source.model
  elements : (c.elements.map Element.identity).Sublist (source.elements.map Element.identity)

namespace Collection.Within

theorem refl (c : Collection) : c.Within c := ⟨rfl, List.Sublist.refl _⟩

theorem of_sublist {source : Collection} {elements : List Element}
    (sub : elements.Sublist source.elements) : (source.withElements elements).Within source :=
  ⟨rfl, sub.map Element.identity⟩

theorem of_map (source : Collection) {edit : Element → Element}
    (keeps : ∀ e, (edit e).identity = e.identity) :
    (source.withElements (source.elements.map edit)).Within source := by
  refine ⟨rfl, ?_⟩
  simp only [Collection.withElements, List.map_map, Function.comp_def, keeps]
  exact List.Sublist.refl _

theorem ids {c source : Collection} (h : c.Within source) :
    (c.elements.map Element.id).Sublist (source.elements.map Element.id) := by
  simpa only [List.map_map, Function.comp_def, Element.identity] using h.elements.map Prod.fst

theorem exists_identity {c source : Collection} (h : c.Within source) {e : Element}
    (member : e ∈ c.elements) : ∃ origin ∈ source.elements, e.identity = origin.identity := by
  obtain ⟨origin, inside, same⟩ :=
    List.mem_map.mp (h.elements.subset (List.mem_map_of_mem (f := Element.identity) member))
  exact ⟨origin, inside, same.symm⟩

end Collection.Within

/-! ## Evaluations -/

/-- Elements that an evaluation results in are some of those at the main inlet. -/
def Derived (inputs : Inputs) (outcome : Except Fault NodeResult) : Prop :=
  ∀ c, outcome = .ok (.elements c) → ∃ source, inputs.main = .ok source ∧ c.Within source

section Combinators

variable {inputs : Inputs}

theorem derived_error (fault : Fault) : Derived inputs (.error fault) := nofun

theorem derived_elements {c source : Collection} (main : inputs.main = .ok source)
    (within : c.Within source) : Derived inputs (.ok (.elements c)) := by
  intro other same
  cases same
  exact ⟨source, main, within⟩

theorem derived_other {result : NodeResult} (other : ∀ c, result ≠ .elements c) :
    Derived inputs (.ok result) := by
  intro c same
  exact absurd (Except.ok.inj same) (other c)

theorem derived_bind {α : Type} (x : Except Fault α) {f : α → Except Fault NodeResult}
    (h : ∀ a, x = .ok a → Derived inputs (f a)) : Derived inputs (x >>= f) := by
  cases x with
  | ok a => exact h a rfl
  | error fault => exact derived_error fault

theorem derived_ite {c : Prop} [Decidable c] {x y : Except Fault NodeResult}
    (hx : Derived inputs x) (hy : Derived inputs y) : Derived inputs (if c then x else y) := by
  split
  · exact hx
  · exact hy

end Combinators

theorem sublist_of_keepWhere {test : Element → Except Fault Bool} {elements kept : List Element}
    (h : keepWhere test elements = .ok kept) : kept.Sublist elements := by
  induction elements generalizing kept with
  | nil =>
      cases h
      exact List.Sublist.refl _
  | cons e rest ih =>
      rw [keepWhere] at h
      obtain ⟨keep, -, h⟩ := bind_eq_ok h
      obtain ⟨others, further, h⟩ := bind_eq_ok h
      cases h
      cases keep with
      | true => exact (ih further).cons_cons e
      | false => exact (ih further).cons e

theorem sublist_of_leadingShare {items kept : List Element} {share : Binary64}
    (h : leadingShare items share = .ok kept) : kept.Sublist items := by
  rw [leadingShare] at h
  obtain ⟨n, -, h⟩ := bind_eq_ok h
  obtain ⟨position, -, h⟩ := bind_eq_ok h
  cases h
  unfold takeTo
  split <;> exact List.take_sublist _ _

section Handlers

variable (inputs : Inputs)

theorem ParameterOptions.derived (o : ParameterOptions) : Derived inputs o.evaluate :=
  derived_bind _ fun _ _ => derived_other nofun

theorem GeometryOptions.derived (o : GeometryOptions) : Derived inputs (o.evaluate inputs) :=
  derived_bind _ fun _ main => derived_elements main (.of_sublist List.filter_sublist)

theorem TransformOptions.derived (o : TransformOptions) : Derived inputs (o.evaluate inputs) :=
  derived_bind _ fun source main => derived_elements main (.of_map source fun _ => rfl)

theorem FilterOptions.derived (o : FilterOptions) : Derived inputs (o.evaluate inputs) := by
  refine derived_ite (derived_error _) (derived_bind _ fun source main => ?_)
  split
  · exact derived_ite (derived_error _)
      (derived_elements main (.of_sublist List.filter_sublist))
  · refine derived_ite (derived_error _) (derived_bind _ fun kept passed => ?_)
    exact derived_elements main (.of_sublist (sublist_of_keepWhere passed))

theorem QuantityOptions.derived (o : QuantityOptions) : Derived inputs (o.evaluate inputs) :=
  derived_bind _ fun _ _ =>
    derived_ite (derived_other nofun) (derived_bind _ fun _ _ => derived_other nofun)

theorem PropertyOptions.derived (o : PropertyOptions) : Derived inputs (o.evaluate inputs) := by
  refine derived_bind _ fun source main => derived_ite (derived_elements main (.refl source)) ?_
  refine derived_bind _ fun value _ => derived_elements main (.of_map source fun e => ?_)
  cases o.action <;> rfl

theorem ClassificationOptions.derived (o : ClassificationOptions) :
    Derived inputs (o.evaluate inputs) := by
  refine derived_bind _ fun source main => derived_elements main (.of_map source fun e => ?_)
  cases o.action <;> rfl

theorem SpatialOptions.derived (o : SpatialOptions) : Derived inputs (o.evaluate inputs) := by
  refine derived_bind _ fun source main => derived_bind _ fun reference _ => ?_
  refine derived_ite (derived_elements main (.of_sublist (List.nil_sublist _)))
    (derived_ite (derived_elements main (.of_sublist List.filter_sublist)) ?_)
  refine derived_bind _ fun kept shared => derived_elements main (.of_sublist ?_)
  exact sublist_of_leadingShare shared

theorem RelationshipOptions.derived (o : RelationshipOptions) :
    Derived inputs (o.evaluate inputs) :=
  derived_bind _ fun _ main => derived_bind _ fun _ shared =>
    derived_elements main (.of_sublist (sublist_of_leadingShare shared))

theorem AnalysisOptions.derived (o : AnalysisOptions) : Derived inputs (o.evaluate inputs) :=
  derived_bind _ fun _ _ =>
    derived_ite (derived_error _) (derived_bind _ fun _ _ => derived_other nofun)

end Handlers

theorem ExportOptions.ne_elements {o : ExportOptions} {inputs : Inputs} {help : Collaborators}
    {c : Collection} : o.evaluate inputs help ≠ .value (.elements c) := by
  intro h
  unfold evaluate at h
  split at h
  · obtain ⟨_, -, written⟩ := bind_eq_ok (Answer.ofExcept_eq_value h)
    cases written
  · unfold evaluateNative at h
    split at h
    · cases h
    · obtain ⟨request, -, h⟩ := Answer.bind_eq_value h
      obtain ⟨payload, -, h⟩ := Answer.bind_eq_value h
      cases h

theorem Collection.append_empty (c : Collection) : c.append .empty = c := by
  simp [Collection.append, Collection.empty]

theorem main_of_single {inputs : Inputs} {c : Collection}
    (single : inputs.results mainInlet = [.elements c]) : inputs.main = .ok c := by
  simp only [Inputs.main, Inputs.collection, single, mergeCollections, collectionOf]
  exact congrArg Except.ok c.append_empty

theorem eq_elements_of_collectionOf {inlet : String} {result : NodeResult} {c : Collection}
    (h : collectionOf inlet result = .ok c) : result = .elements c := by
  cases result with
  | elements _ => rw [Except.ok.inj h]
  | _ => cases h

/-- What an inlet brings together was in the collections that lead there. -/
theorem mem_mergeCollections {inlet : String} {results : List NodeResult} {c : Collection}
    (h : mergeCollections inlet results = .ok c) :
    (∀ e ∈ c.elements, ∃ fed, .elements fed ∈ results ∧ e ∈ fed.elements) ∧
      ∀ model, c.model = some model → ∃ fed, .elements fed ∈ results ∧ fed.model = some model := by
  induction results generalizing c with
  | nil =>
      rw [mergeCollections, Except.ok.injEq] at h
      simp [← h, Collection.empty]
  | cons result rest ih =>
      rw [mergeCollections] at h
      obtain ⟨first, isFirst, h⟩ := bind_eq_ok h
      obtain ⟨others, merged, h⟩ := bind_eq_ok h
      cases h
      obtain rfl := eq_elements_of_collectionOf isFirst
      obtain ⟨elements, models⟩ := ih merged
      constructor
      · intro e member
        cases List.mem_append.mp member with
        | inl inFirst => exact ⟨first, List.mem_cons_self, inFirst⟩
        | inr inOthers =>
            obtain ⟨fed, inside, member⟩ := elements e inOthers
            exact ⟨fed, List.mem_cons_of_mem _ inside, member⟩
      · intro model known
        obtain inFirst | ⟨-, inOthers⟩ := Option.or_eq_some_iff.mp known
        · exact ⟨first, List.mem_cons_self, inFirst⟩
        · obtain ⟨fed, inside, same⟩ := models model inOthers
          exact ⟨fed, List.mem_cons_of_mem _ inside, same⟩

/-- What observing nodes pass on is what they are fed, all of it. -/
theorem main_of_passThrough {inputs : Inputs} {c : Collection}
    (passed : passThrough inputs = .ok (.elements c)) : inputs.main = .ok c := by
  unfold passThrough at passed
  split at passed
  · rename_i none
    cases passed
    simp [Inputs.main, Inputs.collection, none, mergeCollections]
  · rename_i single
    cases passed
    exact main_of_single single
  · split at passed
    · cases main : inputs.main with
      | ok source => rw [main] at passed; cases passed; rfl
      | error fault => rw [main] at passed; cases passed
    · cases passed

theorem derived_passThrough (inputs : Inputs) : Derived inputs (passThrough inputs) := by
  intro c passed
  exact ⟨c, main_of_passThrough passed, .refl c⟩

/-- Elements come from the provider, or from the main inlet. -/
theorem NodeOptions.elements_of_evaluate {options : NodeOptions} {inputs : Inputs}
    {help : Collaborators} {c : Collection}
    (h : options.evaluate inputs help = .value (.elements c)) :
    (∃ o model, options = .source o ∧ help.provider o.model = .value model ∧
      c = ⟨model.elements, some model⟩) ∨
    options.kind ≠ .source ∧ ∃ source, inputs.main = .ok source ∧ c.Within source := by
  cases options with
  | source o =>
      obtain ⟨model, provided, done⟩ := Answer.bind_eq_value h
      cases done
      exact .inl ⟨o, model, rfl, provided, rfl⟩
  | parameter o => exact .inr ⟨nofun, o.derived inputs c (Answer.ofExcept_eq_value h)⟩
  | geometry o => exact .inr ⟨nofun, o.derived inputs c (Answer.ofExcept_eq_value h)⟩
  | filter o => exact .inr ⟨nofun, o.derived inputs c (Answer.ofExcept_eq_value h)⟩
  | transform o => exact .inr ⟨nofun, o.derived inputs c (Answer.ofExcept_eq_value h)⟩
  | quantity o => exact .inr ⟨nofun, o.derived inputs c (Answer.ofExcept_eq_value h)⟩
  | property o => exact .inr ⟨nofun, o.derived inputs c (Answer.ofExcept_eq_value h)⟩
  | classification o => exact .inr ⟨nofun, o.derived inputs c (Answer.ofExcept_eq_value h)⟩
  | spatial o => exact .inr ⟨nofun, o.derived inputs c (Answer.ofExcept_eq_value h)⟩
  | relationship o => exact .inr ⟨nofun, o.derived inputs c (Answer.ofExcept_eq_value h)⟩
  | analysis o => exact .inr ⟨nofun, o.derived inputs c (Answer.ofExcept_eq_value h)⟩
  | exporter o => exact absurd h ExportOptions.ne_elements
  | watch o => exact .inr ⟨nofun, derived_passThrough inputs c (Answer.ofExcept_eq_value h)⟩
  | viewer o => exact .inr ⟨nofun, derived_passThrough inputs c (Answer.ofExcept_eq_value h)⟩

end BuildingWorkflow
