import BuildingWorkflow.Model.Registry
import Mathlib.Data.List.Induction

/-!
The default model of a registry.

A history lists the registrations and removals that a registry went through. It alone says which
models stand, and which of them was registered last. The registry names the latter as its default as
long as the last registration stands. When the default is removed, the registry goes by the places of
its entries instead, and these are the places of the first registrations: a name that was registered
again further back than the end counts with its old place.
-/
namespace BuildingWorkflow

/-- What happens to a registry. -/
inductive Change
  | register (model : Model)
  | remove (name : String)

namespace Change

/-- The name that a change is about. -/
def name : Change → String
  | register m => m.id
  | remove name => name

def registered? : Change → Option String
  | register m => some m.id
  | remove _ => none

end Change

/-! ## Histories -/

/-- The model that stands under a name: that of the last change to it, unless that is a removal. -/
def standing? (history : List Change) (name : String) : Option Model :=
  match history.reverse.find? (·.name == name) with
  | some (.register m) => some m
  | _ => none

/-- The latest registration whose name stands and passes a test. -/
def newestOf? (test : String → Bool) (history : List Change) : Option String :=
  (history.filterMap Change.registered?).reverse.find? fun name =>
    (standing? history name).isSome && test name

/-- The name, among those that stand, whose last registration is the latest. -/
def newest? (history : List Change) : Option String := newestOf? (fun _ => true) history

section History

variable (history : List Change) (m : Model) (removed name : String) (test : String → Bool)

theorem standing?_register :
    standing? (history ++ [.register m]) name =
      if name = m.id then some m else standing? history name := by
  by_cases same : name = m.id
  · simp [standing?, Change.name, same]
  · have other : m.id ≠ name := fun e => same e.symm
    simp [standing?, Change.name, same, other]

theorem standing?_remove :
    standing? (history ++ [.remove removed]) name =
      if name = removed then none else standing? history name := by
  by_cases same : name = removed
  · simp [standing?, Change.name, same]
  · have other : removed ≠ name := fun e => same e.symm
    simp [standing?, Change.name, same, other]

/-- A registration is the newest one, if its name counts; if not, nothing changes. -/
theorem newestOf?_register :
    newestOf? test (history ++ [.register m]) =
      if test m.id then some m.id else newestOf? test history := by
  cases counts : test m.id with
  | true => simp [newestOf?, Change.registered?, standing?_register, counts]
  | false =>
      simp only [newestOf?, Change.registered?, List.filterMap_append, List.filterMap_cons,
        List.filterMap_nil, List.reverse_append, List.reverse_singleton, List.singleton_append,
        List.find?_cons, counts, Bool.and_false, standing?_register]
      congr 1
      funext name
      by_cases same : name = m.id
      · simp [same, counts]
      · simp [same]

theorem newestOf?_remove :
    newestOf? test (history ++ [.remove removed]) =
      newestOf? (fun name => name != removed && test name) history := by
  simp only [newestOf?, Change.registered?, List.filterMap_append, List.filterMap_cons,
    List.filterMap_nil, List.append_nil, standing?_remove]
  congr 1
  funext name
  by_cases same : name = removed
  · simp [same]
  · have other : (name != removed) = true := by simpa using same
    simp [same, other]

/-- Removing a name that is not the newest one does not change which one is. -/
theorem newest?_remove_of_ne (h : newest? history ≠ some removed) :
    newest? (history ++ [.remove removed]) = newest? history := by
  rw [newest?, newestOf?_remove]
  unfold newest? newestOf? at *
  generalize (history.filterMap Change.registered?).reverse = names at *
  induction names with
  | nil => rfl
  | cons name rest ih =>
      by_cases stands : (standing? history name).isSome
      · have other : name ≠ removed := by
          rintro rfl
          simp [stands] at h
        simp [stands, other]
      · rw [List.find?_cons_of_neg (by simp [stands])] at h
        simpa [stands] using ih h

end History

/-- A name that stands is registered again only while it is the newest one. -/
inductive Orderly : List Change → Prop
  | nil : Orderly []
  | register {history : List Change} {m : Model} : Orderly history →
      standing? history m.id = none ∨ newest? history = some m.id →
      Orderly (history ++ [.register m])
  | remove {history : List Change} (name : String) : Orderly history →
      Orderly (history ++ [.remove name])

/-- The model that was registered last stands. -/
def LastStands (history : List Change) : Prop :=
  ∃ name, (history.filterMap Change.registered?).getLast? = some name ∧
    (standing? history name).isSome

/-! ## Registries -/

namespace Registry

def change (r : Registry) : Change → Registry
  | .register m => r.register m
  | .remove name => (r.remove name).2

/-- A registry after some changes. -/
def after (r : Registry) (changes : List Change) : Registry := changes.foldl change r

theorem after_append (r : Registry) (changes changes' : List Change) :
    r.after (changes ++ changes') = (r.after changes).after changes' :=
  List.foldl_append

theorem ofList_eq (models : List Model) : ofList models = empty.after (models.map .register) := by
  rw [after, List.foldl_map]
  rfl

/-- What a registry holds is what stands after its history. -/
theorem find?_after (history : List Change) (name : String) :
    (empty.after history).models.find? name = standing? history name := by
  induction history using List.reverseRecOn with
  | nil => rfl
  | append_singleton history last ih =>
      rw [after_append]
      cases last with
      | register m => simp [after, change, register, standing?_register, ← ih]
      | remove removed => simp [after, change, remove, standing?_remove, ← ih]

/-- The default is one of the models, and it is missing only when all are. -/
structure Led (r : Registry) : Prop where
  none_iff : r.latest = none ↔ r.models.keys = []
  member : ∀ name, r.latest = some name → name ∈ r.models.keys

theorem Led.change {r : Registry} (led : r.Led) (step : Change) : (r.change step).Led := by
  cases step with
  | register m =>
      refine ⟨?_, ?_⟩
      · simp only [Registry.change, register, OrderedMap.keys_insert]
        split
        · rename_i held
          simp [List.ne_nil_of_mem held]
        · simp
      · intro name named
        obtain rfl := Option.some.inj named
        rw [← OrderedMap.contains_iff]
        simp [Registry.change, register, OrderedMap.contains]
  | remove removed =>
      by_cases leads : r.latest = some removed
      · refine ⟨?_, ?_⟩
        · simp [Registry.change, remove, leads, OrderedMap.lastKey?]
        · intro name named
          simp only [Registry.change, remove, leads, if_true, OrderedMap.lastKey?] at named
          exact List.mem_of_getLast? named
      · refine ⟨?_, ?_⟩
        · cases named : r.latest with
          | none =>
              have empty := led.none_iff.mp named
              simp [Registry.change, remove, named, empty]
          | some name =>
              have other : name ≠ removed := fun e => leads (e ▸ named)
              have stays : name ∈ (r.models.erase removed).keys := by
                simp [led.member name named, other]
              have filled : (r.models.erase removed).keys ≠ [] := List.ne_nil_of_mem stays
              simpa [Registry.change, remove, named, other] using filled
        · intro name named
          simp only [Registry.change, remove, leads, if_false] at named
          have other : name ≠ removed := fun e => leads (e ▸ named)
          simp [Registry.change, remove, led.member name named, other]

theorem led_after (history : List Change) : (empty.after history).Led := by
  induction history using List.reverseRecOn with
  | nil => exact ⟨by simp [after, empty], by simp [after, empty]⟩
  | append_singleton history last ih =>
      rw [after_append]
      exact ih.change last

/-- In an orderly history the places of the entries are in the order of the last registrations,
whichever names are left out. -/
theorem find?_keys_after {history : List Change} (orderly : Orderly history)
    (test : String → Bool) :
    (empty.after history).models.keys.reverse.find? test = newestOf? test history := by
  induction orderly generalizing test with
  | nil => rfl
  | @register history m orderly early ih =>
      rw [after_append, newestOf?_register, ← ih]
      have step : ((empty.after history).after [.register m]).models.keys =
          if m.id ∈ (empty.after history).models.keys then (empty.after history).models.keys
          else (empty.after history).models.keys ++ [m.id] := OrderedMap.keys_insert ..
      rw [step]
      split
      · rename_i held
        -- A name that is there already is the newest one, so its old place is the last.
        have stands : standing? history m.id ≠ none := by
          rw [← find?_after, ne_eq, OrderedMap.find?_eq_none_iff, not_not]
          exact held
        have newest := early.resolve_left stands
        rw [newest?, ← ih] at newest
        cases places : (empty.after history).models.keys.reverse with
        | nil => simp [places] at newest
        | cons first rest =>
            rw [places, List.find?_cons_of_pos rfl, Option.some.injEq] at newest
            rw [newest, List.find?_cons]
            cases test m.id <;> rfl
      · rw [List.reverse_append, List.reverse_singleton, List.singleton_append, List.find?_cons]
        cases test m.id <;> rfl
  | @remove history removed orderly ih =>
      have step : ((empty.after history).after [.remove removed]).models.keys =
          (empty.after history).models.keys.filter (· != removed) := OrderedMap.keys_erase ..
      rw [after_append, newestOf?_remove, ← ih, step, ← List.filter_reverse, List.find?_filter]
      simp only [Bool.decide_and, Bool.decide_eq_true]

theorem find?_true (names : List String) :
    names.reverse.find? (fun _ => true) = names.getLast? := by
  rw [List.getLast?_eq_head?_reverse]
  cases names.reverse <;> rfl

/-- In an orderly history the default is the newest of the models that stand. -/
theorem latest_after {history : List Change} (orderly : Orderly history) :
    (empty.after history).latest = newest? history := by
  induction orderly with
  | nil => rfl
  | @register history m orderly early ih =>
      rw [after_append, newest?, newestOf?_register, if_pos rfl]
      rfl
  | @remove history removed orderly ih =>
      rw [after_append]
      by_cases leads : (empty.after history).latest = some removed
      · have fallen : ((empty.after history).after [.remove removed]).latest =
            ((empty.after history).after [.remove removed]).models.lastKey? := if_pos leads
        rw [fallen, OrderedMap.lastKey?, ← find?_true, ← after_append]
        exact find?_keys_after (orderly.remove removed) _
      · have kept : ((empty.after history).after [.remove removed]).latest =
            (empty.after history).latest := if_neg leads
        rw [kept, ih, newest?_remove_of_ne]
        rwa [← ih]

/-- The model that was registered last is the default while it stands. -/
theorem latest_after_of_lastStands {history : List Change} (stands : LastStands history) :
    (empty.after history).latest = newest? history := by
  obtain ⟨name, last, stands⟩ := stands
  have newest : newest? history = some name := by
    rw [List.getLast?_eq_head?_reverse, List.head?_eq_some_iff] at last
    obtain ⟨rest, split⟩ := last
    rw [newest?, newestOf?, split, List.find?_cons_of_pos]
    simp [stands]
  rw [newest]
  clear newest
  induction history using List.reverseRecOn with
  | nil => cases last
  | append_singleton history step ih =>
      rw [after_append]
      cases step with
      | register m =>
          rw [List.filterMap_append] at last
          simp only [Change.registered?, List.filterMap_cons, List.filterMap_nil,
            List.getLast?_concat] at last
          exact last
      | remove removed =>
          simp only [List.filterMap_append, Change.registered?, List.filterMap_cons,
            List.filterMap_nil, List.append_nil] at last
          rw [standing?_remove] at stands
          by_cases same : name = removed
          · simp [same] at stands
          · rw [if_neg same] at stands
            have leads := ih last stands
            have other : (empty.after history).latest ≠ some removed := by
              simpa [leads] using same
            exact (if_neg other).trans leads

/-- Asking for no name, or for the empty one, is asking for the default. -/
theorem get_default (r : Registry) {key : Option String} (unnamed : key = none ∨ key = some "") :
    r.get key = (r.latest.bind r.models.find?).elim (.error (.modelNotFound key)) .ok := by
  obtain rfl | rfl := unnamed
  · simp only [get, Option.filter_none, Option.none_or]
    cases r.latest.bind r.models.find? <;> rfl
  · have blank : ((some "").filter (· != "") : Option String) = none := by decide
    simp only [get, blank, Option.none_or]
    cases r.latest.bind r.models.find? <;> rfl

/-- A registry always has a default when it has a model, and the default is a model that stands.
It is the one that was registered last, of those that stand, if the last registration stands or if no
name was registered again while a newer one stood. -/
theorem latest_newest (models : List Model) (changes : List Change) :
    let history := models.map .register ++ changes
    let r := (Registry.ofList models).after changes
    (r.latest = none ↔ r.size = 0) ∧
    (∀ name, r.latest = some name → ∃ m, standing? history name = some m ∧
      ∀ key, key = none ∨ key = some "" → r.get key = .ok m) ∧
    (LastStands history ∨ Orderly history → r.latest = newest? history) := by
  intro history r
  have same : r = empty.after history := by
    rw [after_append, ← ofList_eq]
  have led := led_after history
  rw [same]
  refine ⟨?_, ?_, ?_⟩
  · rw [led.none_iff, size, OrderedMap.size_eq_length_keys, List.length_eq_zero_iff]
  · intro name named
    obtain ⟨m, held⟩ := OrderedMap.exists_find? (led.member name named)
    refine ⟨m, find?_after history name ▸ held, fun key unnamed => ?_⟩
    rw [get_default _ unnamed, named, Option.bind_some, held, Option.elim_some]
  · intro kept
    obtain stands | orderly := kept
    · exact latest_after_of_lastStands stands
    · exact latest_after orderly

/-- A model with a name and nothing in it. -/
def blankModel (name : String) : Model := ⟨name, name, .ifc4, [], .empty, none, none⟩

def house : Model := blankModel "house"
def shed : Model := blankModel "shed"
def barn : Model := blankModel "barn"

theorem latest_newest_fallen :
    ((ofList [house, shed]).after [.register shed, .register barn, .remove "barn"]).latest =
      some "shed" := by
  have orderly : Orderly [.register house, .register shed, .register shed, .register barn,
      .remove "barn"] := by
    refine @Orderly.remove [_, _, _, _] "barn" ?_
    refine @Orderly.register [_, _, _] _ ?_ (.inl rfl)
    refine @Orderly.register [_, _] _ ?_ (.inr rfl)
    refine @Orderly.register [_] _ ?_ (.inl rfl)
    exact @Orderly.register [] _ .nil (.inl rfl)
  exact (latest_newest [house, shed] _).2.2 (.inr orderly)

/-- The house was registered again after the shed, but its place is the old one, so the shed becomes
the default when the barn is gone. -/
theorem latest_newest_replaced :
    let history := [.register house, .register shed, .register house, .register barn,
      .remove "barn"]
    (empty.after history).latest = some "shed" ∧ newest? history = some "house" := by
  exact ⟨rfl, rfl⟩

end Registry

end BuildingWorkflow
