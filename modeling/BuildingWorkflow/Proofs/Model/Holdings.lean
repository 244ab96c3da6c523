import BuildingWorkflow.Proofs.Model.Registry

/-!
A registry is a finite map.

Every answer of a registry is said by the models that stand after its history. It finds each of them
under its name, lists and counts each once, and removes a name just when a model stands under it.
Which of them is the default is another matter; here it is only one of them.
-/
namespace BuildingWorkflow

theorem id_of_standing? {history : List Change} {name : String} {m : Model}
    (stands : standing? history name = some m) : m.id = name := by
  induction history using List.reverseRecOn with
  | nil => cases stands
  | append_singleton history last ih =>
      cases last with
      | register m' =>
          rw [standing?_register] at stands
          split at stands
          · rename_i same
            cases stands
            exact same.symm
          · exact ih stands
      | remove removed =>
          rw [standing?_remove] at stands
          split at stands
          · cases stands
          · exact ih stands

namespace Registry

/-- A registry answers as a map from names to models would. -/
structure Answers (r : Registry) (held : String → Option Model) : Prop where
  own : ∀ name m, held name = some m → m.id = name
  named : ∀ name, name ≠ "" →
    r.get (some name) = (held name).elim (.error (.modelNotFound (some name))) .ok
  unnamed : ∀ key, key = none ∨ key = some "" →
    if r.size = 0 then r.get key = .error (.modelNotFound key)
    else ∃ m, held m.id = some m ∧ r.get key = .ok m
  removed : ∀ name, (r.remove name).1 = (held name).isSome
  contained : ∀ name, r.contains name = (held name).isSome
  listed : ∃ models : List Model, (models.map Model.id).Nodup ∧
    (∀ m, m ∈ models ↔ held m.id = some m) ∧
    r.summaries = .list (models.map Model.summary) ∧ r.size = models.length

theorem get_named (r : Registry) {name : String} (named : name ≠ "") :
    r.get (some name) =
      (r.models.find? name).elim (.error (.modelNotFound (some name))) .ok := by
  have key : (some name).filter (· != "") = some name := by simp [named]
  simp only [get, key, Option.some_or, Option.bind_some]
  cases r.models.find? name <;> rfl

section Held

variable {r : Registry} (own : ∀ name m, r.models.find? name = some m → m.id = name)
include own

theorem map_id_values : r.models.values.map Model.id = r.models.keys := by
  rw [OrderedMap.values, OrderedMap.keys, List.map_map]
  apply List.map_congr_left
  rintro ⟨name, m⟩ member
  exact own name m ((r.models.mem_entries_iff name m).mp member)

theorem mem_values_iff (m : Model) :
    m ∈ r.models.values ↔ r.models.find? m.id = some m := by
  simp only [OrderedMap.values, List.mem_map, Prod.exists, OrderedMap.mem_entries_iff]
  constructor
  · rintro ⟨name, m', held, rfl⟩
    rwa [own name m' held]
  · intro held
    exact ⟨m.id, m, held, rfl⟩

/-- A registry that keeps its models under their own names and has one of them as its default
answers as the map that it holds. -/
theorem Led.answers (led : r.Led) : r.Answers r.models.find? where
  own := own
  named _ named := r.get_named named
  unnamed key unnamed := by
    rw [get_default r unnamed]
    split
    · rename_i empty
      have none : r.latest = none := led.none_iff.mpr <|
        List.eq_nil_of_length_eq_zero (r.models.size_eq_length_keys ▸ empty)
      rw [none]
      rfl
    · rename_i filled
      cases leads : r.latest with
      | none =>
          refine absurd ?_ filled
          rw [size, OrderedMap.size_eq_length_keys, led.none_iff.mp leads, List.length_nil]
      | some name =>
          obtain ⟨m, held⟩ := OrderedMap.exists_find? (led.member name leads)
          refine ⟨m, own name m held ▸ held, ?_⟩
          rw [Option.bind_some, held, Option.elim_some]
  removed _ := rfl
  contained _ := rfl
  listed := by
    refine ⟨r.models.values, ?_, mem_values_iff own, rfl, ?_⟩
    · rw [map_id_values own]
      exact r.models.nodup_keys
    · exact (List.length_map ..).symm

end Held

/-- After any history of registrations and removals a registry answers as the map of the models that
stand: under each name the model of the last change to it, if that is a registration. -/
theorem answers_after (models : List Model) (changes : List Change) :
    ((ofList models).after changes).Answers (standing? (models.map .register ++ changes)) := by
  have same : (ofList models).after changes = empty.after (models.map .register ++ changes) := by
    rw [after_append, ← ofList_eq]
  have held : standing? (models.map .register ++ changes) =
      ((ofList models).after changes).models.find? := by
    funext name
    rw [same, find?_after]
  rw [held]
  refine Led.answers (fun name m found => ?_) ?_
  · rw [← held] at found
    exact id_of_standing? found
  · rw [same]
    exact led_after _

end Registry

end BuildingWorkflow
