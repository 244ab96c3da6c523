import BuildingWorkflow.Proofs.Node.Property
import BuildingWorkflow.Proofs.Text.Parts

/-!
Properties are not found where they were removed.

A value may stand in the flat map and in any number of property and quantity sets under one name. A
node that removes a name takes it out of the flat map and out of the sets that it is told; every
place that a look-up of the same name and set comes to is among them. A node that is told no set
leaves the name nowhere on the element, so no other way of looking it up finds it either.
-/
namespace BuildingWorkflow

theorem findInAnySet?_eq_none {sets : PropertySets} {name : String}
    (absent : ∀ set, valueIn? sets set name = none) : findInAnySet? sets name = none := by
  rw [findInAnySet?, List.findSome?_eq_none_iff]
  rintro ⟨set, values⟩ member
  have held : sets.find? set = some values := (sets.mem_entries_iff set values).mp member
  have here : values.find? name = none := by simpa [valueIn?, held] using absent set
  simp [here]

namespace Element

/-- A name stands in no place of an element where values are kept. -/
structure Lacks (e : Element) (name : String) : Prop where
  flat : e.findFlat? name = none
  psets : ∀ set, valueIn? e.psets set name = none
  qtos : ∀ set, valueIn? e.qtos set name = none

variable {e : Element} {name : String}

theorem Lacks.findProperty? (lacks : e.Lacks name) (within : Option String) :
    e.findProperty? name within = none := by
  have noPset := findInAnySet?_eq_none lacks.psets
  have noQto := findInAnySet?_eq_none lacks.qtos
  unfold Element.findProperty?
  split
  · simp [lacks.flat, noPset, noQto]
  · simp [lacks.flat, noPset, noQto]
  · simp [lacks.flat, noPset, noQto]
  · simp [findInSet?_eq, lacks.flat, lacks.psets, lacks.qtos]

/-- A path through a set finds nothing under a name that the element lacks, whatever the set. -/
theorem Lacks.resolvePath?_dotted (lacks : e.Lacks name) (trimmed : trim name = name)
    {set : String} (plain : '.' ∉ set.toList) : e.resolvePath? (set ++ "." ++ name) = none := by
  have cut := cutOnce?_trim_dotted name plain
  rw [trimmed] at cut
  simp [resolvePath?, cut, findInSet?_eq, lacks.psets, lacks.qtos]

/-- A bare name that the element lacks stands at most for the element's class or identifier. -/
theorem Lacks.resolvePath?_bare (lacks : e.Lacks name) (trimmed : trim name = name)
    (plain : '.' ∉ name.toList) (notType : lower name ≠ "type") (notId : lower name ≠ "id") :
    e.resolvePath? name = none := by
  simp [resolvePath?, trimmed, cutOnce?_eq_none_iff.mpr plain, lacks.findProperty?, notType, notId]

variable (e name) (set : String)

theorem findFlat?_removeProperty : (e.removeProperty name set).findFlat? name = none := by
  simp [findFlat?, removeProperty]

theorem lacks_removeProperty : (e.removeProperty name anySet).Lacks name where
  flat := findFlat?_removeProperty e name anySet
  psets other := by simp [removeProperty, valueIn?_removeFrom]
  qtos other := by simp [removeProperty, valueIn?_removeFrom]

/-- A look-up comes to places of its own set and to the flat map, and the name was removed from all
of them. -/
theorem findProperty?_removeProperty {within : String} (reached : within = set ∨ set = anySet)
    (named : set ≠ "") : (e.removeProperty name set).findProperty? name (some within) = none := by
  by_cases all : set = anySet
  · subst all
    exact (lacks_removeProperty e name).findProperty? (some within)
  · obtain rfl := reached.resolve_right all
    have flat := findFlat?_removeProperty e name within
    have pset : findInSet? (e.removeProperty name within).psets within name = none := by
      simp [findInSet?_eq, removeProperty, valueIn?_removeFrom]
    have qto : findInSet? (e.removeProperty name within).qtos within name = none := by
      simp [findInSet?_eq, removeProperty, valueIn?_removeFrom]
    unfold Element.findProperty?
    split
    · rename_i none
      cases none
    · rename_i blank
      exact absurd (Option.some.inj blank) named
    · rename_i any
      exact absurd (Option.some.inj any) all
    · rename_i same
      obtain rfl := Option.some.inj same
      simp [flat, pset, qto]

/-- The last look-up on an element was for a name and found nothing. -/
def Misses (e : Element) (name : String) : Prop :=
  ∃ info, e.propertyInfo = some info ∧ info.name = name ∧ info.found = false ∧ info.value = .null

variable {e name} in
theorem misses_getProperty {within : String} (h : e.findProperty? name (some within) = none) :
    (e.getProperty name within).Misses name := by
  refine ⟨_, rfl, rfl, ?_, ?_⟩
  · simp [h]
  · simp [h]

end Element

theorem trim_fst_splitName (name target : String) :
    trim (splitName name target).1 = (splitName name target).1 := by
  unfold splitName
  split
  · exact trim_trim _
  · exact trim_trim _

theorem snd_splitName_ne_empty (name : String) {target : String} (h : target ≠ "") :
    (splitName name target).2 ≠ "" := by
  unfold splitName
  split
  · dsimp only
    split
    · exact h
    · assumption
  · exact h

namespace PropertyOptions

theorem set_ne_empty (o : PropertyOptions) : o.place.2 ≠ "" := by
  apply snd_splitName_ne_empty
  unfold target
  split
  · decide
  · assumption

variable {remover : PropertyOptions} {inputs : Inputs} {source : Collection} {v : Value}

/-- Reading a property after removing it finds nothing on any element, whatever the elements had
before: when the two nodes are about the same set, and when the one that removes is about all sets.
In the second case the name is not found by a path either, neither through a set nor, unless it
means the class or the identifier of the element, on its own. -/
theorem misses_of_removed (removes : remover.action = .remove) (named : remover.place.1 ≠ "")
    (main : inputs.main = .ok source) (supplied : remover.valueFor inputs = .ok v) :
    ∃ removed, remover.evaluate inputs = .ok (.elements removed) ∧
      removed.elements.map Element.identity = source.elements.map Element.identity ∧
      (∀ reader : PropertyOptions, reader.action = .get → reader.place.1 = remover.place.1 →
        reader.place.2 = remover.place.2 ∨ remover.place.2 = anySet →
        ∀ inputs', inputs'.main = .ok removed → (∃ w, reader.valueFor inputs' = .ok w) →
          ∃ shown, reader.evaluate inputs' = .ok (.elements shown) ∧
            shown.elements.map Element.identity = source.elements.map Element.identity ∧
            ∀ e ∈ shown.elements, e.Misses remover.place.1) ∧
      (remover.place.2 = anySet → ∀ e ∈ removed.elements,
        (∀ set : String, '.' ∉ set.toList →
          e.resolvePath? (set ++ "." ++ remover.place.1) = none) ∧
        ('.' ∉ remover.place.1.toList → lower remover.place.1 ≠ "type" →
          lower remover.place.1 ≠ "id" → e.resolvePath? remover.place.1 = none)) := by
  have remove (e : Element) :
      remover.edit v e = e.removeProperty remover.place.1 remover.place.2 := by
    rw [edit, removes]
  have trimmed : trim remover.place.1 = remover.place.1 := trim_fst_splitName _ _
  refine ⟨_, evaluate_eq main named supplied, ?_, ?_, ?_⟩
  · simp [Collection.withElements, Function.comp_def, identity_edit]
  · rintro reader reads name reached inputs' fed ⟨w, supplied'⟩
    have read (e : Element) :
        reader.edit w e = e.getProperty remover.place.1 reader.place.2 := by
      rw [edit, reads, name]
    refine ⟨_, evaluate_eq fed (name ▸ named) supplied', ?_, ?_⟩
    · simp [Collection.withElements, Function.comp_def, identity_edit]
    · intro e member
      simp only [Collection.withElements, List.map_map, List.mem_map, Function.comp_apply] at member
      obtain ⟨origin, -, rfl⟩ := member
      rw [read, remove]
      apply Element.misses_getProperty
      exact origin.findProperty?_removeProperty _ _ reached remover.set_ne_empty
  · intro all e member
    simp only [Collection.withElements, List.mem_map] at member
    obtain ⟨origin, -, rfl⟩ := member
    have lacks := origin.lacks_removeProperty remover.place.1
    rw [remove, all]
    exact ⟨fun set plain => lacks.resolvePath?_dotted trimmed plain,
      fun plain notType notId => lacks.resolvePath?_bare trimmed plain notType notId⟩

/-- A node that removes a height wherever it stands. -/
def removeHeight : PropertyOptions := ⟨"Height", .remove, .text "", "", false⟩

theorem misses_of_removed_height : ∃ removed shown,
    removeHeight.evaluate (.feeding ⟨[measuredWall], none⟩) = .ok (.elements removed) ∧
    readHeight.evaluate (.feeding removed) = .ok (.elements shown) ∧
    shown.elements.length = 1 ∧ (∀ e ∈ shown.elements, e.Misses "Height") ∧
    ∀ e ∈ removed.elements, e.resolvePath? "Dimensions.Height" = none ∧
      e.resolvePath? "Height" = none := by
  have place : removeHeight.place = ("Height", anySet) := by decide +kernel
  have place' : readHeight.place = ("Height", "Dimensions") := by decide +kernel
  have supplied : removeHeight.valueFor (.feeding ⟨[measuredWall], none⟩) = .ok (.text "") := rfl
  obtain ⟨removed, ran, -, read, paths⟩ :=
    misses_of_removed rfl (by rw [place]; decide) (Inputs.main_feeding _) supplied
  rw [place] at read paths
  obtain ⟨shown, ran', identities, misses⟩ :=
    read readHeight rfl (by rw [place']) (.inr rfl) _ (Inputs.main_feeding removed) ⟨_, rfl⟩
  refine ⟨removed, shown, ran, ran', ?_, misses, fun e member => ?_⟩
  · simpa using congrArg List.length identities
  · obtain ⟨dotted, bare⟩ := paths rfl e member
    exact ⟨dotted "Dimensions" (by decide),
      bare (by decide) (by decide +kernel) (by decide +kernel)⟩

end PropertyOptions

end BuildingWorkflow
