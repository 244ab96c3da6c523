import BuildingWorkflow.Ifc.Editing
import BuildingWorkflow.Proofs.Node.Valued
import Mathlib.Data.List.Basic

/-!
What writing one set of an element does to a file.

Only the values that differ from those of the set are written, and where none does the file stays as
it is.
-/
namespace BuildingWorkflow

/-- Whether a property is written, when its set has some entries or does not exist. -/
def differs (current : Option (List (String × Value))) (name : String) (v : Value) : Bool :=
  name != setNumber &&
    match current with
    | none => true
    | some entries => !((entries.lookup name).getD .null).same v

theorem find?_changedValues (current : Option (List (String × Value))) (values : OrderedMap Value)
    (name : String) : (changedValues current values).find? name =
      ((values.find? name).filter (differs current name)).map writable := by
  simp only [changedValues, OrderedMap.find?_map, OrderedMap.find?_filter]
  cases current <;> rfl

theorem isEmpty_changedValues_iff (current : Option (List (String × Value)))
    (values : OrderedMap Value) : (changedValues current values).isEmpty ↔
      ∀ name v, values.find? name = some v → differs current name v = false := by
  simp only [OrderedMap.isEmpty_iff, find?_changedValues, Option.map_eq_none_iff,
    Option.filter_eq_none_iff, Bool.not_eq_true]

namespace IfcFile

variable {file file' : IfcFile} {i : Nat} {p : Product} {before : OrderedMap Value} {set : String}
  {values : OrderedMap Value} {current : Option (List (String × Value))}

/-- The position of a product and the name of its set under which a set with a number is written:
the first that has the number. -/
def placeNumbered (file : IfcFile) (i : Nat) (set : String) (number : Value) : Nat × String :=
  (file.setNumbered? number).getD (i, set)

/-- Writes values into a set that a product is to have and whose entries are known, unless there is
no such set. -/
def writeChanged (file : IfcFile) (i : Nat) (set : String)
    (current : Option (List (String × Value))) (values : OrderedMap Value) :
    Except Fault (List Edit × IfcFile) :=
  match current with
  | none => .ok (file.addSet i set values)
  | some entries =>
      match entries.lookup setNumber with
      | none => .error (.missingKey setNumber)
      | some number =>
          .ok (file.editSet (file.placeNumbered i set number).1
            (file.placeNumbered i set number).2 values)

theorem applySet_eq (known : currentSet before set = .ok current) :
    file.applySet i before set values =
      if (changedValues current values).isEmpty then .ok ([], file)
      else file.writeChanged i set current (changedValues current values) := by
  rw [applySet]
  by_cases unnamed : (values.erase setNumber).isEmpty
  · -- a set with nothing but its number has nothing to write
    have unchanged : (changedValues current values).isEmpty := by
      rw [isEmpty_changedValues_iff]
      intro name v held
      by_cases number : name = setNumber
      · simp [differs, number]
      · have absent := (OrderedMap.isEmpty_iff _).mp unnamed name
        simp [number, held] at absent
    simp [unnamed, unchanged, pure, Except.pure]
  · simp only [unnamed, known, bind, Except.bind, pure, Except.pure, Bool.false_eq_true, if_false]
    split
    · rfl
    · cases current with
      | none => rfl
      | some entries =>
          simp only [writeChanged]
          cases entries.lookup setNumber <;> rfl

theorem exists_of_setNumbered? {number : Value} {place : Nat × String}
    (found : file.setNumbered? number = some place) :
    ∃ p, file.products[place.1]? = some p ∧ p.setNumbered? number = some place.2 := by
  obtain ⟨⟨p, j⟩, member, here⟩ := List.exists_of_findSome?_eq_some found
  obtain ⟨name, named, rfl⟩ := Option.map_eq_some_iff.mp here
  exact ⟨p, List.mem_zipIdx_iff_getElem?.mp member, named⟩

theorem exists_placeNumbered (present : file.products[i]? = some p) (set : String)
    (number : Value) : ∃ q, file.products[(file.placeNumbered i set number).1]? = some q := by
  unfold placeNumbered
  cases found : file.setNumbered? number with
  | none => exact ⟨p, present⟩
  | some place =>
      obtain ⟨q, here, -⟩ := exists_of_setNumbered? found
      exact ⟨q, here⟩

theorem editSet_eq (present : file.products[i]? = some p) (set : String)
    (values : OrderedMap Value) : file.editSet i set values =
      ([.editSet p.id set values],
        { file with products := file.products.set i (p.writeSet set values) }) := by
  rw [editSet, present]

/-- Whoever has a value to write makes an edit. -/
theorem ne_nil_of_writeChanged (present : file.products[i]? = some p) {edits : List Edit}
    (done : file.writeChanged i set current values = .ok (edits, file')) : edits ≠ [] := by
  unfold writeChanged at done
  split at done
  · rw [addSet, present] at done
    cases done
    exact List.cons_ne_nil _ _
  · split at done
    · cases done
    · rename_i number _
      obtain ⟨q, here⟩ := exists_placeNumbered present set number
      rw [editSet_eq here] at done
      cases done
      exact List.cons_ne_nil _ _

/-- Nothing is written just when no property of the set differs. -/
theorem applySet_unchanged_iff (present : file.products[i]? = some p)
    (known : currentSet before set = .ok current) :
    file.applySet i before set values = .ok ([], file) ↔
      ∀ name v, values.find? name = some v → differs current name v = false := by
  rw [← isEmpty_changedValues_iff, applySet_eq known]
  split
  · exact ⟨fun _ => ‹_›, fun _ => rfl⟩
  · rename_i changed
    exact ⟨fun done => absurd rfl (ne_nil_of_writeChanged present done),
      fun unchanged => absurd unchanged changed⟩

/-- A set that leads to no edit leaves the file as it is. -/
theorem eq_of_applySet (present : file.products[i]? = some p)
    (done : file.applySet i before set values = .ok ([], file')) : file' = file := by
  cases known : currentSet before set with
  | error fault =>
      rw [applySet, known] at done
      split at done
      · cases done; rfl
      · cases done
  | ok current =>
      rw [applySet_eq known] at done
      split at done
      · cases done; rfl
      · exact absurd rfl (ne_nil_of_writeChanged present done)

/-- Several sets lead to no edit just when each of them leads to none. -/
theorem applySets_unchanged_iff (present : file.products[i]? = some p)
    (sets : List (String × OrderedMap Value)) :
    file.applySets i before sets = .ok ([], file) ↔
      ∀ entry ∈ sets, file.applySet i before entry.1 entry.2 = .ok ([], file) := by
  induction sets with
  | nil => simp [applySets]
  | cons entry rest ih =>
      obtain ⟨set, values⟩ := entry
      rw [List.forall_mem_cons, ← ih, applySets]
      constructor
      · intro done
        obtain ⟨⟨edits, between⟩, first, done⟩ := bind_eq_ok done
        obtain ⟨⟨more, last⟩, others, done⟩ := bind_eq_ok done
        obtain ⟨none, rfl⟩ := Prod.mk.inj (Except.ok.inj done)
        obtain ⟨rfl, rfl⟩ := List.append_eq_nil_iff.mp none
        obtain rfl := eq_of_applySet present first
        exact ⟨first, others⟩
      · rintro ⟨first, others⟩
        simp [first, others, bind, Except.bind, pure, Except.pure]

end IfcFile

end BuildingWorkflow
