import BuildingWorkflow.Proofs.Element.Sets
import BuildingWorkflow.Proofs.Node.Identity

/-!
Properties are found where they were written.

A property node writes into the flat map and into a set, which is one of its own when none is named.
A look-up that names the same set, or none, comes to the written value before it comes to anything
that the element had under the name already.
-/
namespace BuildingWorkflow

namespace Element

variable (e : Element) (name set : String) (v : Value)

theorem findFlat?_setProperty : (e.setProperty name set v).findFlat? name = some ⟨v, ""⟩ := by
  simp [findFlat?, setProperty]

theorem findInSet?_setProperty (named : set ≠ anySet) :
    findInSet? (e.setProperty name set v).psets set name = some ⟨v, set⟩ := by
  simp [findInSet?_eq, setProperty, named, valueIn?_writeInSet]

/-- A value that was written into a set is found there, and a look-up that names no set finds it in
the flat map. -/
theorem findProperty?_setProperty {within : String} (reached : within = set ∨ within = anySet) :
    ((e.setProperty name set v).findProperty? name (some within)).map Found.value = some v := by
  have flat := e.findFlat?_setProperty name set v
  unfold findProperty?
  split
  · simp [flat]
  · simp [flat]
  · simp [flat]
  · rename_i other _ notAny same
    obtain rfl := Option.some.inj same
    obtain rfl := reached.resolve_right notAny
    simp [findInSet?_setProperty _ _ _ _ notAny]

/-- The last look-up on an element was for a name and found this value. -/
def Shows (e : Element) (name : String) (v : Value) : Prop :=
  ∃ info, e.propertyInfo = some info ∧ info.name = name ∧ info.found = true ∧ info.value = v

theorem shows_getProperty_setProperty {within : String}
    (reached : within = set ∨ within = anySet) :
    ((e.setProperty name set v).getProperty name within).Shows name v := by
  obtain ⟨found, isFound, rfl⟩ :=
    Option.map_eq_some_iff.mp (e.findProperty?_setProperty name set v reached)
  refine ⟨_, rfl, rfl, ?_, ?_⟩
  · simp [isFound]
  · simp [isFound]

end Element

/-- Inputs that have a collection at the main inlet and nothing else. -/
def Inputs.feeding (c : Collection) : Inputs := .ofList [(mainInlet, [.elements c])]

theorem Inputs.main_feeding (c : Collection) : (Inputs.feeding c).main = .ok c := main_of_single rfl

namespace PropertyOptions

/-- The set that a node names; naming no set at all stands for a search through all sets. -/
def target (o : PropertyOptions) : String := if o.set = "" then anySet else o.set

/-- The property that a node is about, and its set. -/
def place (o : PropertyOptions) : String × String := splitName o.name o.target

/-- What a node does to each element, with a value to write. -/
def edit (o : PropertyOptions) (v : Value) (e : Element) : Element :=
  match o.action with
  | .get => e.getProperty o.place.1 o.place.2
  | .set | .add => e.setProperty o.place.1 o.place.2 v
  | .remove => e.removeProperty o.place.1 o.place.2

variable {o : PropertyOptions} {inputs : Inputs} {source : Collection} {v : Value}

/-- A node with a property to look for does the same to all elements. -/
theorem evaluate_eq (main : inputs.main = .ok source) (named : o.place.1 ≠ "")
    (supplied : o.valueFor inputs = .ok v) :
    o.evaluate inputs =
      .ok (.elements (source.withElements (source.elements.map (o.edit v)))) := by
  rw [place, target] at named
  simp only [evaluate, main, supplied, bind, Except.bind, named, if_false, pure, Except.pure]
  unfold edit place target
  cases o.action <;> rfl

/-- A node without a property to look for changes nothing. -/
theorem evaluate_unnamed (main : inputs.main = .ok source) (unnamed : o.place.1 = "") :
    o.evaluate inputs = .ok (.elements source) := by
  rw [place, target] at unnamed
  simp only [evaluate, main, unnamed, bind, Except.bind, if_true, pure, Except.pure]

theorem evaluate_unsupplied (main : inputs.main = .ok source) (named : o.place.1 ≠ "")
    {fault : Fault} (unsupplied : o.valueFor inputs = .error fault) :
    o.evaluate inputs = .error fault := by
  rw [place, target] at named
  simp only [evaluate, main, unsupplied, named, bind, Except.bind, if_false]

theorem identity_edit (o : PropertyOptions) (v : Value) (e : Element) :
    (o.edit v e).identity = e.identity := by
  unfold edit
  cases o.action <;> rfl

theorem fst_splitName (name target target' : String) :
    (splitName name target).1 = (splitName name target').1 := by
  unfold splitName
  split <;> rfl

/-- Naming no set comes to the set in front of the name, or to none. -/
theorem snd_splitName_anySet (name target : String) :
    (splitName name anySet).2 = (splitName name target).2 ∨ (splitName name anySet).2 = anySet := by
  unfold splitName
  split
  · split
    · exact .inr rfl
    · exact .inl rfl
  · exact .inr rfl

/-- Reading a property after writing it shows the written value on every element, whatever the
elements had before: when the two nodes name the same set, and when the one that reads names
none. -/
theorem shows_of_written {writer reader : PropertyOptions}
    (writes : writer.action = .set ∨ writer.action = .add) (reads : reader.action = .get)
    (same : reader.name = writer.name)
    (within : reader.target = writer.target ∨ reader.target = anySet)
    (named : writer.place.1 ≠ "") (main : inputs.main = .ok source)
    (supplied : writer.valueFor inputs = .ok v) :
    ∃ written, writer.evaluate inputs = .ok (.elements written) ∧
      written.elements.map Element.identity = source.elements.map Element.identity ∧
      ∀ inputs', inputs'.main = .ok written → (∃ w, reader.valueFor inputs' = .ok w) →
        ∃ shown, reader.evaluate inputs' = .ok (.elements shown) ∧
          shown.elements.map Element.identity = source.elements.map Element.identity ∧
          ∀ e ∈ shown.elements, e.Shows writer.place.1 v := by
  have place : reader.place.1 = writer.place.1 := by
    rw [PropertyOptions.place, PropertyOptions.place, same, fst_splitName]
  have reached : reader.place.2 = writer.place.2 ∨ reader.place.2 = anySet := by
    rw [PropertyOptions.place, PropertyOptions.place, same]
    obtain target | target := within
    · exact .inl (by rw [target])
    · rw [target]
      exact snd_splitName_anySet _ _
  have write (e : Element) : writer.edit v e = e.setProperty writer.place.1 writer.place.2 v := by
    obtain action | action := writes <;> rw [edit, action]
  have read (w : Value) (e : Element) :
      reader.edit w e = e.getProperty writer.place.1 reader.place.2 := by
    rw [edit, reads, place]
  refine ⟨_, evaluate_eq main named supplied, ?_, fun inputs' fed => ?_⟩
  · simp [Collection.withElements, Function.comp_def, identity_edit]
  · rintro ⟨w, supplied'⟩
    refine ⟨_, evaluate_eq fed (place ▸ named) supplied', ?_, ?_⟩
    · simp [Collection.withElements, Function.comp_def, identity_edit]
    · intro e member
      simp only [Collection.withElements, List.map_map, List.mem_map, Function.comp_apply] at member
      obtain ⟨origin, -, rfl⟩ := member
      rw [read, write]
      exact origin.shows_getProperty_setProperty _ _ v reached

/-- A wall whose height is in the flat map and in a quantity set. -/
def measuredWall : Element where
  id := "1-IFCWALL"
  expressId := 1
  type := "IfcWall"
  properties := .ofList [("Height", .int 2)]
  psets := .empty
  qtos := .ofList [("Dimensions", .ofList [("Height", .int 2)])]
  classifications := []
  transform := none
  propertyInfo := none

/-- A node that writes a height among the dimensions, and one that reads it from there. -/
def writeHeight : PropertyOptions := ⟨"Dimensions:Height", .set, .int 3, "any", false⟩
def readHeight : PropertyOptions := ⟨"Dimensions:Height", .get, .text "", "", false⟩

theorem shows_of_written_height : ∃ written shown,
    writeHeight.evaluate (.feeding ⟨[measuredWall], none⟩) = .ok (.elements written) ∧
    readHeight.evaluate (.feeding written) = .ok (.elements shown) ∧
    shown.elements.length = 1 ∧ ∀ e ∈ shown.elements, e.Shows "Height" (.int 3) := by
  have place : writeHeight.place = ("Height", "Dimensions") := by decide +kernel
  have sameName : readHeight.name = writeHeight.name := rfl
  have supplied : writeHeight.valueFor (.feeding ⟨[measuredWall], none⟩) = .ok (.int 3) := rfl
  obtain ⟨written, wrote, -, further⟩ := shows_of_written (.inl rfl) rfl sameName
    (.inr (by decide)) (by rw [place]; decide) (Inputs.main_feeding _) supplied
  obtain ⟨shown, read, identities, shows⟩ := further _ (Inputs.main_feeding written) ⟨_, rfl⟩
  refine ⟨written, shown, wrote, read, ?_, fun e member => ?_⟩
  · simpa using congrArg List.length identities
  · have h := shows e member
    rwa [place] at h

end PropertyOptions

end BuildingWorkflow
