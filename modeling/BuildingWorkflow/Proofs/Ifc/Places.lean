import BuildingWorkflow.Proofs.Ifc.Editing

/-!
Sets as a file holds them.

A product has its sets by name, and the number of a set tells which set of the file that is.
Products may share a set: the file holds it at one place, with the first product that has the
number, and values written into the set of any product are written there. What is read of a set
after an edit is therefore read at its place.
-/
namespace BuildingWorkflow

namespace IfcFile

/-- What the product at a position has under the name of a set. -/
def setAt? (file : IfcFile) (i : Nat) (set : String) : Option Value :=
  file.products[i]?.bind (·.psets.find? set)

def numberAt? (file : IfcFile) (i : Nat) (set : String) : Option Value :=
  (file.setAt? i set).bind fun v => (setEntries v).lookup setNumber

/-- The place of the set that a product has under a name. -/
def place (file : IfcFile) (i : Nat) (set : String) : Nat × String :=
  match file.numberAt? i set with
  | some number => file.placeNumbered i set number
  | none => (i, set)

/-- The value that the file holds for a property, in the set that a product has under a name. -/
def held? (file : IfcFile) (i : Nat) (set name : String) : Option Value :=
  (file.setAt? (file.place i set).1 (file.place i set).2).bind fun v => (setEntries v).lookup name

/-- Puts a set in the place of what the product at a position has under the name. -/
def put (file : IfcFile) (i : Nat) (set : String) (v : Value) : IfcFile :=
  { file with
    products := file.products.modify i fun p => { p with psets := p.psets.insert set v } }

/-- The entries of a set, if there is one, with some values written over them. -/
def overwritten (held : Option Value) (values : OrderedMap Value) : List (String × Value) :=
  (OrderedMap.merge (.ofList ((held.map setEntries).getD [])) values).entries

theorem lookup_overwritten {entries : List (String × Value)} (nodup : (entries.map Prod.fst).Nodup)
    (values : OrderedMap Value) (name : String) :
    (overwritten (some (.map entries)) values).lookup name =
      (values.find? name).or (entries.lookup name) := by
  have merged := OrderedMap.find?_merge (.ofList entries) values name
  rwa [OrderedMap.find?_ofList nodup] at merged

theorem nodup_overwritten (held : Option Value) (values : OrderedMap Value) :
    ((overwritten held values).map Prod.fst).Nodup :=
  OrderedMap.nodup _

variable {file : IfcFile} {i j : Nat} {p : Product} {set other : String} {v : Value}

theorem setAt?_put (present : file.products[i]? = some p) :
    (file.put i set v).setAt? j other =
      if j = i ∧ other = set then some v else file.setAt? j other := by
  simp only [setAt?, put, List.getElem?_modify]
  by_cases here : i = j
  · subst here
    simp [present]
  · have elsewhere : ¬ j = i := fun same => here same.symm
    simp [here, elsewhere]

theorem put_eq_set (present : file.products[i]? = some p) :
    file.put i set v =
      { file with products := file.products.set i { p with psets := p.psets.insert set v } } := by
  simp [put, List.modify_eq_set_getElem?, present]

theorem put_put (file : IfcFile) (i : Nat) (set : String) (v w : Value) :
    (file.put i set w).put i set v = file.put i set v := by
  simp only [put, List.modify_modify_eq, OrderedMap.insert_insert, Function.comp_def]

theorem editSet_eq_put (present : file.products[i]? = some p) (values : OrderedMap Value) :
    file.editSet i set values = ([.editSet p.id set values],
      file.put i set (.map (overwritten (file.setAt? i set) values))) := by
  rw [editSet_eq present, put_eq_set present, setAt?, present]
  rfl

theorem addSet_eq_put (present : file.products[i]? = some p) (values : OrderedMap Value) :
    file.addSet i set values = ([.addSet p.id set, .editSet p.id set values],
      file.put i set (.map (overwritten
        (some (.map [(setNumber, .int file.freshNumber)])) values))) := by
  have here : (file.put i set (.map [(setNumber, .int file.freshNumber)])).products[i]? =
      some (p.addSet set file.freshNumber) := by
    simp [put, present, Product.addSet]
  have added : { file with products := file.products.set i (p.addSet set file.freshNumber) } =
      file.put i set (.map [(setNumber, .int file.freshNumber)]) :=
    (put_eq_set present).symm
  simp only [addSet, present, added, editSet_eq_put here, put_put, setAt?_put present, and_self,
    if_true]
  rfl

/-! ## Places by number -/

/-- Whether a set, if there is one, has a number. -/
def bears (number : Value) (held : Option Value) : Bool :=
  held.elim false fun v => ((setEntries v).lookup setNumber).elim false (·.same number)

theorem setNumbered?_insert {number : Value}
    (same : bears number (some v) = bears number (p.psets.find? set)) :
    Product.setNumbered? { p with psets := p.psets.insert set v } number =
      p.setNumbered? number := by
  apply map_fst_find?_setEntry
  rw [OrderedMap.find?] at same
  exact same

/-- A set that has a number just when the one in its place had it leaves the places of that number
as they are. -/
theorem setNumbered?_put {number : Value}
    (same : bears number (some v) = bears number (file.setAt? i set)) :
    (file.put i set v).setNumbered? number = file.setNumbered? number := by
  have places (file : IfcFile) : file.setNumbered? number =
      (file.products.map (·.setNumbered? number)).zipIdx.findSome? fun place =>
        place.1.map (place.2, ·) := by
    rw [setNumbered?, List.zipIdx_map, List.findSome?_map]
    rfl
  have named : (file.put i set v).products.map (·.setNumbered? number) =
      file.products.map (·.setNumbered? number) := by
    apply List.ext_getElem?
    intro j
    simp only [put, List.getElem?_map, List.getElem?_modify]
    cases present : file.products[j]? with
    | none => rfl
    | some p =>
        by_cases here : i = j
        · subst here
          have same : bears number (some v) = bears number (p.psets.find? set) := by
            rwa [setAt?, present] at same
          simp [setNumbered?_insert same]
        · simp [here]
  rw [places, named, ← places]

theorem bears_of_setNumbered? {number : Value} {place : Nat × String}
    (found : file.setNumbered? number = some place) :
    bears number (file.setAt? place.1 place.2) := by
  obtain ⟨p, here, named⟩ := exists_of_setNumbered? found
  obtain ⟨⟨name, v⟩, first, same⟩ := Option.map_eq_some_iff.mp named
  have bearing := List.find?_some first
  have held := (p.psets.mem_entries_iff name v).mp (List.mem_of_find?_eq_some first)
  rw [setAt?, here, ← same, Option.bind_some, held]
  exact bearing

/-- Every set is a mapping that has each name once and a number, and sets with one number have one
name. -/
structure Numbered (file : IfcFile) : Prop where
  sets : ∀ i set v, file.setAt? i set = some v → ∃ entries n, v = .map entries ∧
    (entries.map Prod.fst).Nodup ∧ entries.lookup setNumber = some (.int n)
  names : ∀ i set j other n, file.numberAt? i set = some (.int n) →
    file.numberAt? j other = some (.int n) → set = other

theorem numberAt?_eq {entries : List (String × Value)} {number : Option Value}
    (held : file.setAt? i set = some (.map entries)) (has : entries.lookup setNumber = number) :
    file.numberAt? i set = number := by
  rw [numberAt?, held]
  exact has

namespace Numbered

variable {entries : List (String × Value)} {n : Int}

theorem exists_entries (numbered : file.Numbered) {number : Value}
    (has : file.numberAt? i set = some number) : ∃ entries n, number = .int n ∧
      file.setAt? i set = some (.map entries) ∧ (entries.map Prod.fst).Nodup ∧
      entries.lookup setNumber = some (.int n) := by
  obtain ⟨v, held, inside⟩ := Option.bind_eq_some_iff.mp has
  obtain ⟨entries, n, rfl, nodup, own⟩ := numbered.sets i set v held
  obtain rfl := Option.some.inj (inside.symm.trans own)
  exact ⟨entries, n, rfl, held, nodup, own⟩

theorem bears_iff (numbered : file.Numbered) :
    bears (.int n) (file.setAt? i set) ↔ file.numberAt? i set = some (.int n) := by
  cases held : file.setAt? i set with
  | none => simp [bears, numberAt?, held]
  | some v =>
      obtain ⟨entries, m, rfl, -, own⟩ := numbered.sets i set v held
      rw [numberAt?_eq held own]
      simp only [bears, Option.elim_some, setEntries, own, Value.same, Value.sameBy,
        Value.sameWhole, Value.asInt?, beq_iff_eq, Option.some.injEq, Value.int.injEq]
      exact eq_comm

/-- The place of a number has the number. -/
theorem numberAt?_placeNumbered (numbered : file.Numbered)
    (has : file.numberAt? i set = some (.int n)) :
    file.numberAt? (file.placeNumbered i set (.int n)).1 (file.placeNumbered i set (.int n)).2 =
      some (.int n) := by
  unfold placeNumbered
  cases found : file.setNumbered? (.int n) with
  | none => exact has
  | some place => exact numbered.bears_iff.mp (bears_of_setNumbered? found)

theorem snd_placeNumbered (numbered : file.Numbered)
    (has : file.numberAt? i set = some (.int n)) :
    (file.placeNumbered i set (.int n)).2 = set :=
  numbered.names _ _ _ _ n (numbered.numberAt?_placeNumbered has) has

theorem snd_place (numbered : file.Numbered) (i : Nat) (set : String) :
    (file.place i set).2 = set := by
  unfold place
  cases has : file.numberAt? i set with
  | none => rfl
  | some number =>
      obtain ⟨entries, n, rfl, -⟩ := numbered.exists_entries has
      exact numbered.snd_placeNumbered has

end Numbered

theorem le_foldl_max (numbers : List Int) (least : Int) :
    least ≤ numbers.foldl max least ∧ ∀ n ∈ numbers, n ≤ numbers.foldl max least := by
  induction numbers generalizing least with
  | nil => simp
  | cons n rest ih =>
      obtain ⟨least_le, all_le⟩ := ih (max least n)
      rw [List.foldl_cons, List.forall_mem_cons]
      exact ⟨by omega, by omega, all_le⟩

/-- A new number is larger than that of any set. -/
theorem lt_freshNumber {n : Int} (has : file.numberAt? i set = some (.int n)) :
    n < file.freshNumber := by
  obtain ⟨v, held, number⟩ := Option.bind_eq_some_iff.mp has
  obtain ⟨p, present, found⟩ := Option.bind_eq_some_iff.mp held
  have value : v ∈ p.psets.values :=
    List.mem_map_of_mem (f := Prod.snd) ((p.psets.mem_entries_iff set v).mpr found)
  have own : n ∈ p.numbers :=
    List.mem_cons_of_mem _ (List.mem_filterMap.mpr ⟨v, value, by simp [number, Value.asInt?]⟩)
  have member : n ∈ file.products.flatMap Product.numbers :=
    List.mem_flatMap.mpr ⟨p, List.mem_of_getElem? present, own⟩
  exact Int.lt_add_one_of_le ((le_foldl_max _ 0).2 n member)

end IfcFile

end BuildingWorkflow
