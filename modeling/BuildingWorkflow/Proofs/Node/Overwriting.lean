import BuildingWorkflow.Proofs.Node.Edited
import BuildingWorkflow.Proofs.Node.Elementwise

/-!
The last write wins.

A property that is written twice, a classification reference that is assigned twice and a placement
that is made twice leave what the second time alone would have left. The order of names and sets counts
too: what the first write puts at the end of a map is what the second one would have put there.
-/
namespace BuildingWorkflow

namespace Element

variable (e : Element) (name set : String)

theorem writeInSet_writeInSet (sets : PropertySets) (v w : Value) :
    writeInSet (writeInSet sets set name v) set name w = writeInSet sets set name w := by
  simp only [writeInSet, OrderedMap.update_update, Function.comp_def, OrderedMap.insert_insert]

theorem setProperty_setProperty (v w : Value) :
    (e.setProperty name set v).setProperty name set w = e.setProperty name set w := by
  simp only [setProperty, OrderedMap.insert_insert, writeInSet_writeInSet]

theorem withReference_withReference (c c' : Classification) (values : OrderedMap Value) :
    withReference c' (withReference c values) = withReference c' values := by
  have keys : (OrderedMap.mk (referenceFields c) (nodup_referenceFields c)).keys =
      (OrderedMap.mk (referenceFields c') (nodup_referenceFields c')).keys := rfl
  exact OrderedMap.merge_merge keys values

theorem assignClassification_assignClassification (c c' : Classification) :
    (e.assignClassification c).assignClassification c' = e.assignClassification c' := by
  have sets : ((e.assignClassification c).assignClassification c').psets =
      (e.assignClassification c').psets := by
    simp only [psets_assignClassification, OrderedMap.update_update, Function.comp_def,
      withReference_withReference]
  change { (e.assignClassification c') with
    psets := ((e.assignClassification c).assignClassification c').psets } = _
  rw [sets]

end Element

def PropertyOptions.Writes (o : PropertyOptions) : Prop := o.action = .set ∨ o.action = .add

theorem PropertyOptions.edit_of_writes {o : PropertyOptions} (writes : o.Writes) (v : Value)
    (e : Element) : o.edit v e = e.setProperty o.place.1 o.place.2 v := by
  obtain action | action := writes <;> rw [edit, action]

namespace NodeOptions

/-- The second node writes where the first one writes: the same property in the same set, the
reference, or the placement. -/
inductive Overwrites : NodeOptions → NodeOptions → Prop
  | property {first second : PropertyOptions} (writes : first.Writes) (rewrites : second.Writes)
      (name : first.name = second.name) (target : first.target = second.target) :
      Overwrites (.property first) (.property second)
  | classification {first second : ClassificationOptions} (assigns : first.action = .set)
      (reassigns : second.action = .set) : Overwrites (.classification first) (.classification second)
  | transform (first second : TransformOptions) : Overwrites (.transform first) (.transform second)

/-- A value to write is there, if the node needs one. -/
def Supplied (rest : Inputs) : NodeOptions → Prop
  | property o => ∃ v, o.valueFor rest = .ok v
  | _ => True

/-- A node edits each element for itself. -/
def EditsEach (options : NodeOptions) (rest : Inputs) (edit : Element → Element) : Prop :=
  ∀ (help : Collaborators) (c : Collection), options.evaluate (rest.fed c) help =
    .value (.elements (c.withElements (c.elements.map edit)))

variable {rest : Inputs}

theorem editsEach_property (o : PropertyOptions) {v : Value} (supplied : o.valueFor rest = .ok v) :
    (property o).EditsEach rest (o.applied v) := fun _ c =>
  congrArg Answer.ofExcept (o.evaluate_fed rest c supplied)

theorem editsEach_classification (o : ClassificationOptions) :
    (classification o).EditsEach rest o.edit := fun _ c =>
  congrArg Answer.ofExcept (o.evaluate_eq (rest.main_fed c))

theorem editsEach_transform (o : TransformOptions) : (transform o).EditsEach rest o.edit :=
  fun _ c => congrArg Answer.ofExcept (o.evaluate_eq (rest.main_fed c))

/-- Nodes that overwrite each other make edits of which the second undoes the first. -/
theorem Overwrites.edits {first second : NodeOptions} (covers : Overwrites first second)
    {rest rest' : Inputs} (supplied : first.Supplied rest) (supplied' : second.Supplied rest') :
    ∃ edit edit', first.EditsEach rest edit ∧ second.EditsEach rest' edit' ∧
      (∀ e, edit' (edit e) = edit' e) ∧ ∀ e, edit (edit e) = edit e := by
  cases covers with
  | @property first second writes rewrites name target =>
      obtain ⟨v, supplied⟩ := supplied
      obtain ⟨w, supplied'⟩ := supplied'
      have place : first.place = second.place := by
        rw [PropertyOptions.place, PropertyOptions.place, name, target]
      refine ⟨_, _, editsEach_property first supplied, editsEach_property second supplied', ?_⟩
      by_cases named : second.place.1 = ""
      · simp [PropertyOptions.applied, place, named]
      · simp [PropertyOptions.applied, place, named, PropertyOptions.edit_of_writes writes,
          PropertyOptions.edit_of_writes rewrites, Element.setProperty_setProperty]
  | @classification first second assigns reassigns =>
      refine ⟨_, _, editsEach_classification first, editsEach_classification second, ?_⟩
      simp [ClassificationOptions.edit, assigns, reassigns,
        Element.assignClassification_assignClassification]
  | transform first second =>
      exact ⟨_, _, editsEach_transform first, editsEach_transform second, fun _ => rfl,
        fun _ => rfl⟩

/-- Of two nodes in series that write in the same place the second one gives the collection that it
gives alone, and the first one changes nothing when it comes a second time. -/
theorem last_write_wins {first second : NodeOptions} (covers : Overwrites first second)
    {rest rest' : Inputs} (supplied : first.Supplied rest) (supplied' : second.Supplied rest')
    (help : Collaborators) (c : Collection) :
    ∃ written rewritten,
      first.evaluate (rest.fed c) help = .value (.elements written) ∧
      second.evaluate (rest'.fed written) help = .value (.elements rewritten) ∧
      second.evaluate (rest'.fed c) help = .value (.elements rewritten) ∧
      first.evaluate (rest.fed written) help = .value (.elements written) := by
  obtain ⟨edit, edit', once, again, wins, idles⟩ := covers.edits supplied supplied'
  refine ⟨_, _, once help c, ?_, again help c, ?_⟩
  · rw [again help]
    simp only [Collection.withElements, List.map_map, Function.comp_def, wins]
  · rw [once help]
    simp only [Collection.withElements, List.map_map, Function.comp_def, idles]

/-- A height that is written as three and then as four. -/
theorem last_write_wins_height :
    let write := PropertyOptions.writeHeight
    let raise : PropertyOptions := { write with value := .int 4 }
    let nothing : Inputs := .empty
    let walls : Collection := ⟨[PropertyOptions.measuredWall], none⟩
    ∃ written rewritten,
      (property write).evaluate (nothing.fed walls) .unaided = .value (.elements written) ∧
      (property raise).evaluate (nothing.fed written) .unaided = .value (.elements rewritten) ∧
      (property raise).evaluate (nothing.fed walls) .unaided = .value (.elements rewritten) := by
  intro write raise nothing walls
  have covers : Overwrites (.property write) (.property raise) :=
    .property (.inl rfl) (.inl rfl) rfl rfl
  have three : (property write).Supplied nothing := ⟨.int 3, rfl⟩
  have four : (property raise).Supplied nothing := ⟨.int 4, rfl⟩
  obtain ⟨written, rewritten, wrote, rewrote, alone, -⟩ :=
    last_write_wins covers three four .unaided walls
  exact ⟨written, rewritten, wrote, rewrote, alone⟩

end NodeOptions

end BuildingWorkflow
