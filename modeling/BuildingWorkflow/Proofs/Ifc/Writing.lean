import BuildingWorkflow.Proofs.Ifc.Places

/-!
What a file holds after the sets of an element are written.

Writing a set changes what is held of that set and of no other one of the product, and the values
written are then held at the place of the set. Both follow from how places go with numbers, which
values never touch. Writing several sets is then an induction over them: their names are distinct.
-/
namespace BuildingWorkflow

namespace IfcFile

variable {file file' : IfcFile} {i j : Nat} {p q : Product} {set other : String}
  {entries : List (String × Value)} {n : Int} {values before : OrderedMap Value}

theorem numberAt?_put (present : file.products[j]? = some p) :
    (file.put j set (.map entries)).numberAt? i other =
      if i = j ∧ other = set then entries.lookup setNumber else file.numberAt? i other := by
  rw [numberAt?, setAt?_put present]
  split <;> rfl

/-- A set with distinct names may take a place under its name when its number is nowhere else under
another one. -/
theorem Numbered.put (numbered : file.Numbered) (present : file.products[j]? = some p)
    (nodup : (entries.map Prod.fst).Nodup) (number : entries.lookup setNumber = some (.int n))
    (own : ∀ i other, file.numberAt? i other = some (.int n) → other = set) :
    (file.put j set (.map entries)).Numbered := by
  constructor
  · intro i other v held
    rw [setAt?_put present] at held
    split at held
    · cases held
      exact ⟨entries, n, rfl, nodup, number⟩
    · exact numbered.sets i other v held
  · intro i other i' other' m has has'
    rw [numberAt?_put present] at has has'
    split at has
    · rename_i here
      obtain rfl := Value.int.inj (Option.some.inj (number.symm.trans has))
      split at has'
      · rename_i there
        exact here.2.trans there.2.symm
      · exact here.2.trans (own _ _ has').symm
    · split at has'
      · rename_i there
        obtain rfl := Value.int.inj (Option.some.inj (number.symm.trans has'))
        exact (own _ _ has).trans there.2.symm
      · exact numbered.names _ _ _ _ m has has'

/-- What is held of a set stays when a set of another name is put somewhere and the places of its
number stay. -/
theorem Numbered.held?_put (numbered : file.Numbered) (present : file.products[j]? = some p)
    (elsewhere : other ≠ set)
    (same : ∀ n, file.numberAt? i other = some (.int n) →
      bears (.int n) (some (.map entries)) = bears (.int n) (file.setAt? j set)) (name : String) :
    (file.put j set (.map entries)).held? i other name = file.held? i other name := by
  have number : (file.put j set (.map entries)).numberAt? i other = file.numberAt? i other := by
    rw [numberAt?_put present, if_neg fun here => elsewhere here.2]
  have place : (file.put j set (.map entries)).place i other = file.place i other := by
    unfold IfcFile.place
    rw [number]
    cases has : file.numberAt? i other with
    | none => rfl
    | some number =>
        obtain ⟨_, n, rfl, -⟩ := numbered.exists_entries has
        simp only [placeNumbered, setNumbered?_put (same n has)]
  have apart : (file.place i other).2 ≠ set := by
    rw [numbered.snd_place]
    exact elsewhere
  rw [held?, place, setAt?_put present, if_neg fun here => apart here.2, held?]

/-- A file after values were written into a set of the product at a position. -/
structure Rewritten (file : IfcFile) (i : Nat) (set : String) (values : OrderedMap Value)
    (file' : IfcFile) : Prop where
  numbered : file'.Numbered
  present : ∃ p, file'.products[i]? = some p
  others : ∀ other ≠ set, file'.setAt? i other = file.setAt? i other
  kept : ∀ other ≠ set, ∀ name, file'.held? i other name = file.held? i other name
  written : ∀ name ≠ setNumber,
    file'.held? i set name = (values.find? name).or (file.held? i set name)

theorem present_put (present : file.products[i]? = some p) (j : Nat) (set : String) (v : Value) :
    ∃ p, (file.put j set v).products[i]? = some p := by
  simp only [IfcFile.put, List.getElem?_modify, present]
  exact ⟨_, rfl⟩

theorem place_eq {number : Value} (has : file.numberAt? i set = some number) :
    file.place i set = file.placeNumbered i set number := by
  rw [place, has]

theorem held?_of_place {place : Nat × String} (here : file.place i set = place)
    (held : file.setAt? place.1 place.2 = some (.map entries)) (name : String) :
    file.held? i set name = entries.lookup name := by
  rw [held?, here, held]
  rfl

/-- A put is a rewriting when the set comes to its own place, no other place moves, and the entries
are those held before with the values over them. -/
theorem Numbered.rewritten_put (numbered : file.Numbered) (present : file.products[i]? = some p)
    (there : file.products[j]? = some q) (nodup : (entries.map Prod.fst).Nodup)
    (number : entries.lookup setNumber = some (.int n))
    (own : ∀ i other, file.numberAt? i other = some (.int n) → other = set)
    (same : ∀ other ≠ set, ∀ m, file.numberAt? i other = some (.int m) →
      bears (.int m) (some (.map entries)) = bears (.int m) (file.setAt? j set))
    (here : (file.put j set (.map entries)).place i set = (j, set))
    (written : ∀ name ≠ setNumber,
      entries.lookup name = (values.find? name).or (file.held? i set name)) :
    file.Rewritten i set values (file.put j set (.map entries)) := by
  refine ⟨numbered.put there nodup number own, present_put present j set _, ?_, ?_, ?_⟩
  · intro other elsewhere
    rw [setAt?_put there, if_neg fun same => elsewhere same.2]
  · intro other elsewhere name
    exact numbered.held?_put there elsewhere (same other elsewhere) name
  · intro name named
    have held : (file.put j set (.map entries)).setAt? j set = some (.map entries) := by
      rw [setAt?_put there, if_pos ⟨rfl, rfl⟩]
    rw [held?_of_place here held, written name named]

/-- Values written over a set that exists. -/
theorem Numbered.rewritten_editSet (numbered : file.Numbered)
    (present : file.products[i]? = some p) (has : file.numberAt? i set = some (.int n))
    (unnumbered : values.find? setNumber = none) :
    file.Rewritten i set values
      (file.editSet (file.placeNumbered i set (.int n)).1 (file.placeNumbered i set (.int n)).2
        values).2 := by
  obtain ⟨q, there⟩ := exists_placeNumbered present set (.int n)
  have named := numbered.snd_placeNumbered has
  have bearing := numbered.numberAt?_placeNumbered has
  rw [named] at bearing
  obtain ⟨entries, m, same, held, nodup, number⟩ := numbered.exists_entries bearing
  obtain rfl := Value.int.inj same
  rw [editSet_eq_put there, named, held]
  have number' : (overwritten (some (.map entries)) values).lookup setNumber =
      some (.int n) := by
    rw [lookup_overwritten nodup, unnumbered, number, Option.none_or]
  have same (sought : Value) :
      bears sought (some (.map (overwritten (some (.map entries)) values))) =
        bears sought (file.setAt? (file.placeNumbered i set (.int n)).1 set) := by
    rw [held]
    simp only [bears, Option.elim_some, setEntries, number, number']
  refine numbered.rewritten_put present there (nodup_overwritten _ _) number'
    (fun _ _ has' => numbered.names _ _ _ _ n has' has) (fun _ _ _ _ => same _) ?_ ?_
  · have has' : (file.put (file.placeNumbered i set (.int n)).1 set
        (.map (overwritten (some (.map entries)) values))).numberAt? i set = some (.int n) := by
      rw [numberAt?_put there]
      split
      · exact number'
      · exact has
    rw [place_eq has', placeNumbered, setNumbered?_put (same _)]
    exact Prod.ext rfl named
  · intro name named'
    rw [lookup_overwritten nodup, held?_of_place (place_eq has) (by rw [named]; exact held)]

/-- Values written into a set that is new. -/
theorem Numbered.rewritten_addSet (numbered : file.Numbered)
    (present : file.products[i]? = some p) (absent : file.setAt? i set = none)
    (unnumbered : values.find? setNumber = none) :
    file.Rewritten i set values (file.addSet i set values).2 := by
  have fresh (j : Nat) (other : String) :
      file.numberAt? j other ≠ some (.int file.freshNumber) := fun has =>
    absurd (lt_freshNumber has) (Int.lt_irrefl _)
  have single : (([(setNumber, Value.int file.freshNumber)] : List (String × Value)).map
      Prod.fst).Nodup := by simp
  have number : (overwritten (some (.map [(setNumber, .int file.freshNumber)])) values).lookup
      setNumber = some (.int file.freshNumber) := by
    rw [lookup_overwritten single, unnumbered, Option.none_or, lookup_cons_ite, if_pos rfl]
  have own (j : Nat) (other : String) (has : file.numberAt? j other =
      some (.int file.freshNumber)) : other = set := absurd has (fresh j other)
  rw [addSet_eq_put present]
  refine numbered.rewritten_put present present (nodup_overwritten _ _) number own ?_ ?_ ?_
  · intro other elsewhere m has
    have distinct : m ≠ file.freshNumber := fun same => fresh i other (same ▸ has)
    simp [absent, bears, setEntries, number, Value.same, Value.sameBy, Value.sameWhole,
      Value.asInt?, distinct]
  · have has : (file.put i set (.map (overwritten
        (some (.map [(setNumber, .int file.freshNumber)])) values))).numberAt? i set =
          some (.int file.freshNumber) := by
      rw [numberAt?_put present, if_pos ⟨rfl, rfl⟩, number]
    rw [place_eq has]
    have kept := numbered.put present (nodup_overwritten _ _) number own
    have bearing := kept.numberAt?_placeNumbered has
    rw [numberAt?_put present] at bearing
    split at bearing
    · rename_i here
      exact Prod.ext here.1 here.2
    · exact absurd bearing (fresh _ _)
  · intro name named
    have unheld : file.held? i set name = none := by
      rw [held?, place, numberAt?, absent]
      simp [absent]
    rw [lookup_overwritten single, unheld, lookup_cons_ite, if_neg named]
    rfl

/-! ## Sets of an element -/

theorem Numbered.rewritten_self (numbered : file.Numbered) (present : file.products[i]? = some p)
    (none : values.isEmpty) : file.Rewritten i set values file := by
  refine ⟨numbered, ⟨p, present⟩, fun _ _ => rfl, fun _ _ _ => rfl, ?_⟩
  intro name _
  rw [(values.isEmpty_iff).mp none name, Option.none_or]

theorem changedValues_setNumber (current : Option (List (String × Value)))
    (values : OrderedMap Value) : (changedValues current values).find? setNumber = none := by
  rw [find?_changedValues]
  cases values.find? setNumber <;> simp [differs]

/-- One set of an element is written over the set that the product has had from the start. -/
theorem Numbered.applySet (numbered : file.Numbered) (present : file.products[i]? = some p)
    (known : file.setAt? i set = before.find? set) (values : OrderedMap Value) :
    ∃ edits file', file.applySet i before set values = .ok (edits, file') ∧
      file.Rewritten i set (changedValues ((before.find? set).map setEntries) values) file' := by
  cases held : before.find? set with
  | none =>
      have current : currentSet before set = .ok none := by rw [currentSet, held]
      rw [applySet_eq current]
      split
      · rename_i unchanged
        exact ⟨_, _, rfl, numbered.rewritten_self present unchanged⟩
      · exact ⟨_, _, rfl, numbered.rewritten_addSet present (known.trans held)
          (changedValues_setNumber _ values)⟩
  | some v =>
      obtain ⟨entries, n, rfl, nodup, number⟩ := numbered.sets i set v (known.trans held)
      have current : currentSet before set = .ok (some entries) := by rw [currentSet, held]
      rw [applySet_eq current]
      split
      · rename_i unchanged
        exact ⟨_, _, rfl, numbered.rewritten_self present unchanged⟩
      · simp only [writeChanged, number]
        exact ⟨_, _, rfl, numbered.rewritten_editSet present
          (numberAt?_eq (known.trans held) number) (changedValues_setNumber _ values)⟩

/-- The value that a file holds for a property after an element is written: what the element has of
it when that differs from what the product had before, as it is written, or else what was held. -/
def heldAfter (file : IfcFile) (i : Nat) (before : OrderedMap Value) (set name : String)
    (v : Option Value) : Option Value :=
  ((v.filter (differs ((before.find? set).map setEntries) name)).map writable).or
    (file.held? i set name)

/-- Sets of distinct names are written one after the other, each as if it were the only one. -/
theorem Numbered.applySets (numbered : file.Numbered) (present : file.products[i]? = some p)
    (sets : List (String × OrderedMap Value)) (distinct : (sets.map Prod.fst).Nodup)
    (known : ∀ entry ∈ sets, file.setAt? i entry.1 = before.find? entry.1) :
    ∃ edits file', file.applySets i before sets = .ok (edits, file') ∧
      ∀ set name, name ≠ setNumber → file'.held? i set name =
        file.heldAfter i before set name ((sets.lookup set).bind (·.find? name)) := by
  induction sets generalizing file p with
  | nil => exact ⟨[], file, rfl, fun _ _ _ => rfl⟩
  | cons entry rest ih =>
      obtain ⟨fresh, distinct⟩ := List.nodup_cons.mp distinct
      obtain ⟨here, known⟩ := List.forall_mem_cons.mp known
      obtain ⟨edits, between, first, rewritten⟩ := numbered.applySet present here entry.2
      obtain ⟨p', present'⟩ := rewritten.present
      have apart (other : String) (member : other ∈ rest.map Prod.fst) : other ≠ entry.1 :=
        fun same => fresh (same ▸ member)
      obtain ⟨more, file', others, held⟩ := ih rewritten.numbered present' distinct
        fun other member =>
          (rewritten.others _ (apart _ (List.mem_map_of_mem member))).trans (known other member)
      refine ⟨edits ++ more, file', ?_, ?_⟩
      · simp [IfcFile.applySets, first, others, bind, Except.bind, pure, Except.pure]
      · intro set name named
        rw [held set name named, heldAfter, lookup_cons_ite]
        by_cases same : set = entry.1
        · subst same
          have absent : rest.lookup entry.1 = none :=
            ((OrderedMap.mk rest distinct).find?_eq_none_iff entry.1).mpr fresh
          rw [absent, rewritten.written name named, find?_changedValues, heldAfter]
          simp
        · rw [if_neg same, rewritten.kept set same name, heldAfter]

end IfcFile

end BuildingWorkflow
