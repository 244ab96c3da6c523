import BuildingWorkflow.Node.Classification
import BuildingWorkflow.Node.Property

/-!
What edits leave in the property sets of an element.

A set is read by its name and a property by its name in the set. Each edit is stated by what is read
after it, for every set and every property, so what it does not name is seen to stay.
-/
namespace BuildingWorkflow

/-- The value that sets hold under a name, in the set of another name. -/
def valueIn? (sets : PropertySets) (set name : String) : Option Value :=
  (sets.find? set).bind (·.find? name)

theorem findInSet?_eq (sets : PropertySets) (set name : String) :
    findInSet? sets set name = (valueIn? sets set name).map (⟨·, set⟩) := rfl

/-- Rewriting a set leaves what it leaves of the set. -/
theorem valueIn?_update (sets : PropertySets) (target : String)
    (f : OrderedMap Value → OrderedMap Value) (set name : String)
    (keeps : ∀ values : OrderedMap Value, (f values).find? name = values.find? name) :
    valueIn? (sets.update target .empty f) set name = valueIn? sets set name := by
  by_cases same : set = target
  · subst same
    cases found : sets.find? set <;> simp [valueIn?, keeps, found]
  · simp [valueIn?, same]

theorem valueIn?_writeInSet (sets : PropertySets) (target written set name : String) (v : Value) :
    valueIn? (Element.writeInSet sets target written v) set name =
      if set = target ∧ name = written then some v else valueIn? sets set name := by
  by_cases here : name = written
  · subst here
    by_cases same : set = target
    · simp [valueIn?, Element.writeInSet, same]
    · simp [valueIn?, Element.writeInSet, same]
  · rw [Element.writeInSet, valueIn?_update _ _ _ _ _ (fun values => by simp [here])]
    simp [here]

theorem find?_modify (sets : PropertySets) (target : String)
    (f : OrderedMap Value → OrderedMap Value) (set : String) :
    (sets.modify target f).find? set =
      (sets.find? set).map fun values => if set = target then f values else values := by
  rw [OrderedMap.modify, OrderedMap.find?_mapEntries]

/-- A name is removed from the set that is meant, or from every set when none is. -/
theorem valueIn?_removeFrom (sets : PropertySets) (target removed set name : String) :
    valueIn? (Element.removeFrom sets target removed) set name =
      if name = removed ∧ (target = anySet ∨ set = target) then none
      else valueIn? sets set name := by
  unfold Element.removeFrom valueIn?
  by_cases all : target = anySet
  · rw [if_pos all, OrderedMap.find?_map]
    by_cases same : name = removed
    · cases sets.find? set <;> simp [same, all]
    · cases sets.find? set <;> simp [same]
  · rw [if_neg all, find?_modify]
    by_cases here : set = target
    · by_cases same : name = removed
      · cases sets.find? set <;> simp [same, here]
      · cases sets.find? set <;> simp [same, here]
    · simp [all, here]

end BuildingWorkflow
