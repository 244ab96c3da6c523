import BuildingWorkflow.Proofs.Ifc.Loading
import BuildingWorkflow.Proofs.Ifc.Writing

/-!
Which products an element is written to.

An element stands for a product with its global identifier or, when it has none, with its number. A
set that the product lacks is added to the product. A set that it has is written where the file
holds it, and that may be with another product which shares the set. No other product changes, and
an element that stands for none changes nothing at all.
-/
namespace BuildingWorkflow

/-- The products that an element stands for. -/
inductive Element.StandsFor (e : Element) (p : Product) : Prop
  | named (known : e.globalId.isNull = false) (same : p.globalId.same e.globalId = true)
  | numbered (unknown : e.globalId.isNull = true) (number : p.id = e.expressId)

namespace Product

/-- A number among the entries of a set of a product. -/
def Numbers (p : Product) (n : Value) : Prop :=
  ∃ set v, p.psets.find? set = some v ∧ (setNumber, n) ∈ setEntries v

/-- Products share a set when each has one of the same number. -/
def Shares (q p : Product) : Prop := ∃ m n, q.Numbers m ∧ p.Numbers n ∧ m.same n

theorem numbers_of_setNumbered? {q : Product} {number : Value} {set : String}
    (found : q.setNumbered? number = some set) : ∃ m, q.Numbers m ∧ m.same number := by
  obtain ⟨⟨set, v⟩, first, -⟩ := Option.map_eq_some_iff.mp found
  have held := (q.psets.mem_entries_iff set v).mp (List.mem_of_find?_eq_some first)
  have bearing := List.find?_some first
  dsimp only at bearing
  cases own : (setEntries v).lookup setNumber with
  | none => simp [own] at bearing
  | some m =>
      rw [own] at bearing
      exact ⟨m, ⟨set, v, held, mem_of_lookup own⟩, bearing⟩

end Product

namespace IfcFile

variable {start file file' : IfcFile} {i j : Nat} {p q : Product} {e : Element} {set : String}
  {v : Value} {values : OrderedMap Value} {edits : List Edit}

/-! ## The product of an element -/

theorem standsFor_of_findProduct? (found : file.findProduct? e = some i) :
    ∃ p, file.products[i]? = some p ∧ e.StandsFor p := by
  rw [findProduct?, Option.or_eq_some_iff] at found
  rcases found with numbered | ⟨-, named⟩
  · obtain ⟨first, passes⟩ := Option.filter_eq_some_iff.mp numbered
    obtain ⟨inside, number, -⟩ := List.findIdx?_eq_some_iff_getElem.mp first
    refine ⟨_, List.getElem?_eq_getElem inside, ?_⟩
    rw [List.getElem?_eq_getElem inside, Option.elim_some] at passes
    cases unknown : e.globalId.isNull with
    | true => exact .numbered unknown (beq_iff_eq.mp number)
    | false =>
        rw [unknown, Bool.false_or] at passes
        exact .named unknown passes
  · obtain ⟨truthy, named⟩ := Option.ite_none_right_eq_some.mp named
    obtain ⟨inside, same, -⟩ := List.findIdx?_eq_some_iff_getElem.mp named
    have known : e.globalId.isNull = false := by
      cases globalId : e.globalId <;> simp_all [Value.truthy, Value.isNull]
    exact ⟨_, List.getElem?_eq_getElem inside, .named known same⟩

/-- A product for which an element stands is not found only when the element has an empty global
identifier, which is not looked for. -/
theorem empty_of_findProduct?_eq_none (missing : file.findProduct? e = none)
    (member : p ∈ file.products) (stands : e.StandsFor p) :
    e.globalId.isNull = false ∧ e.globalId.truthy = false := by
  rw [findProduct?, Option.or_eq_none_iff] at missing
  obtain ⟨unnumbered, unnamed⟩ := missing
  cases stands with
  | named known same =>
      refine ⟨known, Bool.eq_false_iff.mpr fun truthy => ?_⟩
      rw [if_pos truthy, positionOf?, List.findIdx?_eq_none_iff] at unnamed
      exact absurd same (by simp [unnamed p member])
  | numbered unknown number =>
      rw [Option.filter_eq_none_iff] at unnumbered
      cases first : file.products.findIdx? (·.id == e.expressId) with
      | none =>
          rw [List.findIdx?_eq_none_iff] at first
          exact absurd number (by simpa using first p member)
      | some i => exact absurd (unnumbered i first) (by simp [unknown])

/-- The number and the entity of each product; neither is ever written. -/
def identities (file : IfcFile) : List (Int × Entity) :=
  file.products.map fun p => (p.id, p.entity)

theorem exists_of_identities (same : file.identities = file'.identities)
    (here : file.products[i]? = some p) :
    ∃ q, file'.products[i]? = some q ∧ q.id = p.id ∧ q.entity = p.entity := by
  have identity : file'.identities[i]? = some (p.id, p.entity) := by
    rw [← same, identities, List.getElem?_map, here]
    rfl
  rw [identities, List.getElem?_map] at identity
  obtain ⟨q, there, alike⟩ := Option.map_eq_some_iff.mp identity
  exact ⟨q, there, Prod.mk.inj alike⟩

theorem exists_standsFor (same : file.identities = file'.identities)
    (known : ∃ p ∈ file.products, e.StandsFor p) : ∃ q ∈ file'.products, e.StandsFor q := by
  obtain ⟨p, member, stands⟩ := known
  obtain ⟨i, here⟩ := List.mem_iff_getElem?.mp member
  obtain ⟨q, there, number, entity⟩ := exists_of_identities same here
  refine ⟨q, List.mem_of_getElem? there, ?_⟩
  cases stands with
  | named known same => exact .named known (by rwa [Product.globalId, entity])
  | numbered unknown own => exact .numbered unknown (number.trans own)

theorem products_put (file : IfcFile) (i j : Nat) (set : String) (v : Value) :
    (file.put i set v).products[j]? = (file.products[j]?).map fun p =>
      if i = j then { p with psets := p.psets.insert set v } else p := by
  rw [put, List.getElem?_modify]
  cases file.products[j]? with
  | none => rfl
  | some p => by_cases here : i = j <;> simp [here]

theorem identities_put (file : IfcFile) (i : Nat) (set : String) (v : Value) :
    (file.put i set v).identities = file.identities := by
  apply List.ext_getElem?
  intro j
  rw [identities, identities, List.getElem?_map, List.getElem?_map, products_put]
  cases file.products[j]? with
  | none => rfl
  | some p => by_cases here : i = j <;> simp [here]

theorem number_of_overwritten {held : Option Value} {n : Value}
    (unnumbered : values.find? setNumber = none) (own : (setNumber, n) ∈ overwritten held values) :
    ∃ w, held = some w ∧ (setNumber, n) ∈ setEntries w := by
  have found := (OrderedMap.mem_entries_iff _ setNumber n).mp own
  rw [OrderedMap.find?_merge, unnumbered, Option.none_or] at found
  have member := OrderedMap.mem_of_find?_ofList found
  cases held with
  | none => cases member
  | some w => exact ⟨w, rfl, member⟩

theorem find?_of_currentSet {before : OrderedMap Value} {entries : List (String × Value)}
    (known : currentSet before set = .ok (some entries)) :
    before.find? set = some (.map entries) := by
  unfold currentSet at known
  split at known
  · cases known
  · cases known
  · next found =>
    cases known
    exact found
  · cases known

/-! ## The turn of a product -/

/-- The positions where values may be written in the turn of the product at a position. -/
def Reaches (start : IfcFile) (i j : Nat) : Prop :=
  j = i ∨ ∃ p q, start.products[i]? = some p ∧ start.products[j]? = some q ∧ q.Shares p

/-- The edits that may be made in the turn of the product at a position. -/
inductive Permits (start : IfcFile) (i : Nat) : Edit → Prop
  | added {p : Product} {set : String} (here : start.products[i]? = some p) :
      Permits start i (.addSet p.id set)
  | edited {j : Nat} {q : Product} {set : String} {values : OrderedMap Value}
      (reached : start.Reaches i j) (there : start.products[j]? = some q) :
      Permits start i (.editSet q.id set values)

/-- What a file may become in the turn of the product at a position. Another product may get new
values, but no number, so that it shares no set that it did not share at the start. -/
structure Within (start : IfcFile) (i : Nat) (file : IfcFile) : Prop where
  identities : file.identities = start.identities
  numbers : ∀ j, j ≠ i → ∀ p q, start.products[j]? = some p → file.products[j]? = some q →
    ∀ n, q.Numbers n → p.Numbers n
  untouched : ∀ j, ¬ start.Reaches i j → file.products[j]? = start.products[j]?

theorem Within.self (start : IfcFile) (i : Nat) : start.Within i start where
  identities := rfl
  numbers _ _ p q here there n own := by
    obtain rfl := Option.some.inj (here.symm.trans there)
    exact own
  untouched _ _ := rfl

namespace Within

/-- A set may be put at a position that is reached. With another product it must bring no number
that was not in its place. -/
theorem put (within : start.Within i file) (reached : start.Reaches i j)
    (numbers : j ≠ i → ∀ n, (setNumber, n) ∈ setEntries v →
      ∃ w, file.setAt? j set = some w ∧ (setNumber, n) ∈ setEntries w) :
    start.Within i (file.put j set v) where
  identities := (identities_put file j set v).trans within.identities
  numbers k other p q here there n own := by
    rw [products_put] at there
    obtain ⟨q', before, rfl⟩ := Option.map_eq_some_iff.mp there
    refine within.numbers k other p q' here before n ?_
    by_cases same : j = k
    · subst same
      rw [if_pos rfl] at own
      obtain ⟨name, w, found, member⟩ := own
      rw [OrderedMap.find?_insert] at found
      split at found
      · cases found
        obtain ⟨w, held, member⟩ := numbers other n member
        rw [setAt?, before] at held
        exact ⟨set, w, held, member⟩
      · exact ⟨name, w, found, member⟩
    · rwa [if_neg same] at own
  untouched k unreached := by
    have other : j ≠ k := fun same => unreached (same ▸ reached)
    rw [products_put, ← within.untouched k unreached]
    simp [other]

/-- A number of the product whose turn it is leads to a position that is reached. -/
theorem reaches_placeNumbered (within : start.Within i file) (here : start.products[i]? = some p)
    {number : Value} (own : p.Numbers number) (set : String) :
    start.Reaches i (file.placeNumbered i set number).1 := by
  unfold placeNumbered
  cases found : file.setNumbered? number with
  | none => exact .inl rfl
  | some place =>
      rw [Option.getD_some]
      by_cases same : place.1 = i
      · exact .inl same
      · obtain ⟨q, there, named⟩ := exists_of_setNumbered? found
        obtain ⟨m, has, alike⟩ := Product.numbers_of_setNumbered? named
        obtain ⟨q', before, -⟩ := exists_of_identities within.identities there
        exact .inr ⟨p, q', here, before,
          m, number, within.numbers place.1 same q' q before there m has, own, alike⟩

theorem addSet (within : start.Within i file) (here : start.products[i]? = some p)
    (set : String) (values : OrderedMap Value) :
    start.Within i (file.addSet i set values).2 ∧
      ∀ edit ∈ (file.addSet i set values).1, start.Permits i edit := by
  obtain ⟨q, there, number, -⟩ := exists_of_identities within.identities.symm here
  rw [addSet_eq_put there, number]
  refine ⟨within.put (.inl rfl) fun other => absurd rfl other, ?_⟩
  simp only [List.forall_mem_cons]
  exact ⟨.added here, .edited (.inl rfl) here, List.forall_mem_nil _⟩

theorem editSet (within : start.Within i file) (reached : start.Reaches i j)
    (there : file.products[j]? = some q) (set : String)
    (unnumbered : values.find? setNumber = none) :
    start.Within i (file.editSet j set values).2 ∧
      ∀ edit ∈ (file.editSet j set values).1, start.Permits i edit := by
  obtain ⟨q', before, number, -⟩ := exists_of_identities within.identities there
  rw [editSet_eq_put there, ← number]
  refine ⟨within.put reached fun _ n => number_of_overwritten unnumbered, ?_⟩
  simp only [List.forall_mem_cons]
  exact ⟨.edited reached before, List.forall_mem_nil _⟩

theorem writeChanged (within : start.Within i file) (here : start.products[i]? = some p)
    {current : Option (List (String × Value))} (known : currentSet p.psets set = .ok current)
    (unnumbered : values.find? setNumber = none)
    (done : file.writeChanged i set current values = .ok (edits, file')) :
    start.Within i file' ∧ ∀ edit ∈ edits, start.Permits i edit := by
  cases current with
  | none =>
      have added := within.addSet here set values
      rwa [Except.ok.inj done] at added
  | some entries =>
      rw [IfcFile.writeChanged] at done
      cases own : entries.lookup setNumber with
      | none => simp [own] at done
      | some number =>
          rw [own] at done
          have numbers : p.Numbers number :=
            ⟨set, .map entries, find?_of_currentSet known, mem_of_lookup own⟩
          obtain ⟨q, present, -⟩ := exists_of_identities within.identities.symm here
          obtain ⟨q, there⟩ := exists_placeNumbered present set number
          have edited := within.editSet (within.reaches_placeNumbered here numbers set) there
            (file.placeNumbered i set number).2 unnumbered
          rwa [Except.ok.inj done] at edited

theorem applySet (within : start.Within i file) (here : start.products[i]? = some p)
    (done : file.applySet i p.psets set values = .ok (edits, file')) :
    start.Within i file' ∧ ∀ edit ∈ edits, start.Permits i edit := by
  cases known : currentSet p.psets set with
  | error fault =>
      rw [IfcFile.applySet, known] at done
      split at done
      · cases done
        exact ⟨within, List.forall_mem_nil _⟩
      · cases done
  | ok current =>
      rw [applySet_eq known] at done
      split at done
      · cases done
        exact ⟨within, List.forall_mem_nil _⟩
      · exact within.writeChanged here known (changedValues_setNumber current values) done

theorem applySets (within : start.Within i file) (here : start.products[i]? = some p)
    {sets : List (String × OrderedMap Value)}
    (done : file.applySets i p.psets sets = .ok (edits, file')) :
    start.Within i file' ∧ ∀ edit ∈ edits, start.Permits i edit := by
  induction sets generalizing file edits with
  | nil =>
      cases done
      exact ⟨within, List.forall_mem_nil _⟩
  | cons entry rest ih =>
      obtain ⟨⟨first, between⟩, one, done⟩ := bind_eq_ok done
      obtain ⟨⟨more, last⟩, others, done⟩ := bind_eq_ok done
      cases done
      obtain ⟨within, permitted⟩ := within.applySet here one
      obtain ⟨within, permitted'⟩ := ih within others
      exact ⟨within, List.forall_mem_append.mpr ⟨permitted, permitted'⟩⟩

end Within

/-! ## Turns of elements -/

/-- The turn of an element. Its sets are written for a product that it stands for; nothing happens
where there is none, or where the element has an empty global identifier. -/
inductive Turn (file : IfcFile) (e : Element) : List Edit → IfcFile → Prop
  | passed (nobody : ∀ p ∈ file.products, e.StandsFor p →
      e.globalId.isNull = false ∧ e.globalId.truthy = false) : Turn file e [] file
  | written {i : Nat} {p : Product} {edits : List Edit} {file' : IfcFile}
      (here : file.products[i]? = some p) (stands : e.StandsFor p)
      (done : file.applySets i p.psets e.psets.entries = .ok (edits, file'))
      (within : file.Within i file') (permitted : ∀ edit ∈ edits, file.Permits i edit) :
      Turn file e edits file'

/-- The turns of elements, one after the other. -/
inductive Turns : IfcFile → List Element → List Edit → IfcFile → Prop
  | nil (file : IfcFile) : Turns file [] [] file
  | cons {file between last : IfcFile} {e : Element} {es : List Element} {edits more : List Edit}
      (turn : file.Turn e edits between) (rest : Turns between es more last) :
      Turns file (e :: es) (edits ++ more) last

theorem Turn.identities (turn : file.Turn e edits file') : file'.identities = file.identities := by
  cases turn with
  | passed => rfl
  | written _ _ _ within _ => exact within.identities

theorem turn_of_applyElement (done : file.applyElement e = .ok (edits, file')) :
    file.Turn e edits file' := by
  rw [applyElement] at done
  cases found : file.findProduct? e with
  | none =>
      rw [found] at done
      cases done
      exact .passed fun p => empty_of_findProduct?_eq_none found
  | some i =>
      obtain ⟨p, here, stands⟩ := standsFor_of_findProduct? found
      simp only [found, here] at done
      obtain ⟨within, permitted⟩ := (Within.self file i).applySets here done
      exact .written here stands done within permitted

theorem turns_of_applyElements {es : List Element}
    (done : file.applyElements es = .ok (edits, file')) : file.Turns es edits file' := by
  induction es generalizing file edits with
  | nil =>
      cases done
      exact .nil _
  | cons e rest ih =>
      obtain ⟨⟨first, between⟩, one, done⟩ := bind_eq_ok done
      obtain ⟨⟨more, last⟩, others, done⟩ := bind_eq_ok done
      cases done
      exact .cons (turn_of_applyElement one) (ih others)

theorem applyElement_of_nobody (nobody : ∀ p ∈ file.products, ¬ e.StandsFor p) :
    file.applyElement e = .ok ([], file) := by
  rw [applyElement]
  cases found : file.findProduct? e with
  | none => rfl
  | some i =>
      obtain ⟨p, here, stands⟩ := standsFor_of_findProduct? found
      exact absurd stands (nobody p (List.mem_of_getElem? here))

/-- An element that stands for no product may as well be left out. -/
theorem applyElements_leave_out {before after : List Element}
    (nobody : ∀ p ∈ file.products, ¬ e.StandsFor p) :
    file.applyElements (before ++ e :: after) = file.applyElements (before ++ after) := by
  induction before generalizing file with
  | nil =>
      rw [List.nil_append, List.nil_append, applyElements, applyElement_of_nobody nobody]
      simp only [bind, Except.bind]
      cases file.applyElements after <;> rfl
  | cons first rest ih =>
      rw [List.cons_append, List.cons_append, applyElements, applyElements]
      cases one : file.applyElement first with
      | error fault => rfl
      | ok written =>
          have identities := (turn_of_applyElement one).identities
          have nobody' : ∀ p ∈ written.2.products, ¬ e.StandsFor p := fun p member stands => by
            obtain ⟨q, member, stands⟩ := exists_standsFor identities ⟨p, member, stands⟩
            exact nobody q member stands
          simp only [bind, Except.bind, ih nobody']

/-- Two walls that share a property set. -/
def sharing : IfcFile :=
  let wall := Product.wallWith "FireRating" (.text "F90")
  let second := [("GlobalId", Attribute.value (.text "h")), ("Name", .value (.text "V"))]
  ⟨"IFC4", [wall, { wall with id := 2, entity := .mk "IfcWall" [] second }], []⟩

/-- The second of the walls with another rating. -/
def rerated : Element :=
  .create 2 "IfcWall" (.ofList [("GlobalId", .text "h"), ("Name", .text "V")])
    (.ofList [("Pset_Wall", .ofList [("FireRating", .text "F120")])]) .empty []

end IfcFile

end BuildingWorkflow
