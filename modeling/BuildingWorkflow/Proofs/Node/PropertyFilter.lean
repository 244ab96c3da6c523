import BuildingWorkflow.Proofs.Node.Partition
import BuildingWorkflow.Proofs.Node.Valued
import BuildingWorkflow.Proofs.Options.Rereading
import BuildingWorkflow.Proofs.Text.Parts

/-!
Filters on the values of a property.

Such a filter asks for a name first, then looks the property up on each element and compares what it
finds. A filter that names no set reads the name as a path, and blanks around a path do not count; a
filter that names a set takes the name as it stands. What a filter compares with becomes a text when
its options are read, just as a value becomes a text when it is compared, so that an element always
has the value that it has.
-/
namespace BuildingWorkflow

/-- The set names that ask for a search through all sets. -/
def NamesNoSet (set : Option String) : Prop := set ∈ [none, some "", some anySet]

instance : DecidablePred NamesNoSet := fun _ => inferInstanceAs (Decidable (_ ∈ _))

namespace Element

variable (e : Element) {name name' : String}

/-- The value that a filter on a property finds. -/
def filtered? (name : String) (set : Option String) : Option Value :=
  (match set with
    | none | some "" | some "any" => e.resolvePath? name
    | some set => e.findProperty? name (some set)).map Found.value

theorem filtered?_of_namesNoSet {set : Option String} (everywhere : NamesNoSet set) :
    e.filtered? name set = (e.resolvePath? name).map Found.value := by
  simp only [NamesNoSet, List.mem_cons, List.not_mem_nil, or_false] at everywhere
  obtain rfl | rfl | rfl := everywhere <;> rfl

/-- With the name of a set a value is looked for in the sets of that name, and then in the flat
map. -/
theorem filtered?_of_named {set : String} (named : ¬ NamesNoSet (some set)) :
    e.filtered? name (some set) = ((findInSet? e.psets set name).or
      ((findInSet? e.qtos set name).or (e.findFlat? name))).map Found.value := by
  have apart : set ≠ "" ∧ set ≠ "any" := by
    simpa [NamesNoSet, anySet] using named
  unfold filtered?
  split
  · next absent => cases absent
  · next empty => exact absurd (Option.some.inj empty) apart.1
  · next any => exact absurd (Option.some.inj any) apart.2
  · next same =>
    cases same
    simp only [findProperty?]

theorem resolvePath?_congr (alike : trim name = trim name') :
    e.resolvePath? name = e.resolvePath? name' := by
  simp only [resolvePath?, alike]

end Element

/-- What comes through a test is what it says yes to. -/
theorem mem_of_keepWhere {test : Element → Except Fault Bool} {elements kept : List Element}
    (tested : keepWhere test elements = .ok kept) {e : Element} :
    e ∈ kept ↔ e ∈ elements ∧ test e = .ok true := by
  have yes : saysYes (test e) = true ↔ test e = .ok true := by
    cases test e <;> simp [saysYes]
  obtain ⟨fault, failed, -⟩ | ⟨parted, -⟩ := keepWhere_opposite test elements
  · rw [failed] at tested
    cases tested
  · cases parted.symm.trans tested
    rw [List.mem_filter, yes]

namespace FilterOptions

def onProperty (name : String) (set : Option String) (operator : FilterOperator)
    (expected : String) : FilterOptions :=
  ⟨.property, name, operator, expected, set⟩

variable {e : Element} {name name' : String} {set : Option String} {v : Value}
  {operator : FilterOperator} {expected : String}

theorem valueOf_onProperty :
    (onProperty name set operator expected).valueOf e = e.filtered? name set := rfl

theorem keep_onProperty (elements : List Element) :
    (onProperty name set operator expected).keep elements =
      if trim name = "" then .error (.node "Filter on property value needs a property name" [])
      else keepWhere (fun e => compare (e.filtered? name set) operator expected) elements := by
  rw [keep_of_values (o := onProperty name set operator expected) nofun]
  simp only [valueOf_onProperty]
  refine if_congr ?_ rfl rfl
  rw [Bool.and_eq_true, decide_eq_true_iff, decide_eq_true_iff]
  exact and_iff_right rfl

theorem evaluate_onProperty (inputs : Inputs) :
    (onProperty name set operator expected).evaluate inputs = inputs.main >>= fun source =>
      ((onProperty name set operator expected).keep source.elements).map fun kept =>
        .elements ⟨kept, source.model⟩ :=
  evaluate_of_supported (by cases operator <;> rfl)

/-- What a filter on a property lets through is what passes the comparison. -/
theorem mem_of_evaluate {inputs : Inputs} {source c : Collection} (main : inputs.main = .ok source)
    (done : (onProperty name set operator expected).evaluate inputs = .ok (.elements c)) :
    e ∈ c.elements ↔
      e ∈ source.elements ∧ compare (e.filtered? name set) operator expected = .ok true := by
  rw [evaluate_onProperty, bind_of_eq_ok main, keep_onProperty] at done
  split at done
  · cases done
  · cases tested : keepWhere (fun e => compare (e.filtered? name set) operator expected)
        source.elements with
    | error fault =>
        rw [tested] at done
        cases done
    | ok kept =>
        rw [tested] at done
        cases done
        exact mem_of_keepWhere tested

theorem evaluate_alone (filled : trim name ≠ "") {pass : Bool}
    (tested : compare (e.filtered? name set) operator expected = .ok pass) (model : Option Model) :
    (onProperty name set operator expected).evaluate (.feeding ⟨[e], model⟩) =
      .ok (.elements ⟨if pass then [e] else [], model⟩) := by
  rw [evaluate_onProperty, bind_of_eq_ok (Inputs.main_feeding _), keep_onProperty, if_neg filled,
    keepWhere, tested]
  rfl

/-! ## Blanks around the name -/

/-- Filters whose names are blank alike cannot be told apart if they find the same values. -/
theorem evaluate_congr (blank : trim name = "" ↔ trim name' = "")
    (found : trim name ≠ "" → ∀ e : Element, e.filtered? name set = e.filtered? name' set)
    (inputs : Inputs) :
    (onProperty name set operator expected).evaluate inputs =
      (onProperty name' set operator expected).evaluate inputs := by
  simp only [evaluate_onProperty, keep_onProperty]
  by_cases empty : trim name = ""
  · simp only [if_pos empty, if_pos (blank.mp empty)]
  · simp only [if_neg empty, if_neg (mt blank.mpr empty), found empty]

/-- A wall with a single value, in a property set. -/
def markedWall (set name : String) : Element :=
  .create 1 "IfcWall" .empty (.ofList [(set, .ofList [(name, .bool true)])]) .empty []

theorem filtered?_markedWall {set : String} (named : ¬ NamesNoSet (some set))
    (name name' : String) : (markedWall set name).filtered? name' (some set) =
      if name' = name then some (.bool true) else none := by
  rw [Element.filtered?_of_named _ named]
  by_cases same : name' = name <;>
    simp [markedWall, Element.create, findInSet?, Element.findFlat?, OrderedMap.find?_ofList,
      lookup_cons_ite, same]

/-- A filter in a set keeps the wall if it is for a property of exactly this name. -/
theorem evaluate_markedWall {set : String} (named : ¬ NamesNoSet (some set)) {name name' : String}
    (filled : trim name' ≠ "") :
    (onProperty name' (some set) .present "").evaluate (.feeding ⟨[markedWall set name], none⟩) =
      .ok (.elements ⟨if name' = name then [markedWall set name] else [], none⟩) := by
  have tested : compare ((markedWall set name).filtered? name' (some set)) .present "" =
      .ok (decide (name' = name)) := by
    rw [filtered?_markedWall named]
    by_cases same : name' = name <;> simp [same] <;> rfl
  simp only [evaluate_alone filled tested, decide_eq_true_eq]

/-- Blanks around the name make no difference to a filter that names no set, nor if the name is
blank altogether. In all other cases there are operators and elements for which they do. -/
theorem evaluate_padded (alike : trim name = trim name') (set : Option String) :
    (∀ operator expected inputs, (onProperty name set operator expected).evaluate inputs =
        (onProperty name' set operator expected).evaluate inputs) ↔
      NamesNoSet set ∨ trim name = "" ∨ name = name' := by
  constructor
  · intro equal
    by_contra different
    simp only [not_or] at different
    obtain ⟨named, filled, other⟩ := different
    cases set with
    | none => exact named (by decide)
    | some set =>
        have equal := equal .present "" (.feeding ⟨[markedWall set name], none⟩)
        rw [evaluate_markedWall named filled, evaluate_markedWall named (alike ▸ filled),
          if_pos rfl, if_neg (Ne.symm other)] at equal
        cases equal
  · rintro (everywhere | blank | rfl) operator expected
    · refine evaluate_congr (by rw [alike]) fun _ e => ?_
      rw [e.filtered?_of_namesNoSet everywhere, e.filtered?_of_namesNoSet everywhere,
        e.resolvePath?_congr alike]
    · exact evaluate_congr (by rw [alike]) fun filled => absurd blank filled
    · exact fun _ => rfl

/-- In a search through all sets. -/
theorem evaluate_padded_height :
    trim " Height\t" = trim "Height" ∧ NamesNoSet (some "any") ∧
      ∀ operator expected inputs,
        (onProperty " Height\t" (some "any") operator expected).evaluate inputs =
          (onProperty "Height" (some "any") operator expected).evaluate inputs := by
  have alike : trim " Height\t" = trim "Height" := by decide +kernel
  have everywhere : NamesNoSet (some "any") := by decide
  exact ⟨alike, everywhere, (evaluate_padded alike _).mpr (.inl everywhere)⟩

/-- In one set a blank in front of the name is enough to miss the property. -/
theorem evaluate_padded_confined :
    trim " Height" = trim "Height" ∧
      (onProperty "Height" (some "Pset_Wall") .present "").evaluate
          (.feeding ⟨[markedWall "Pset_Wall" "Height"], none⟩) =
        .ok (.elements ⟨[markedWall "Pset_Wall" "Height"], none⟩) ∧
      (onProperty " Height" (some "Pset_Wall") .present "").evaluate
          (.feeding ⟨[markedWall "Pset_Wall" "Height"], none⟩) = .ok (.elements ⟨[], none⟩) := by
  have alike : trim " Height" = trim "Height" := by decide +kernel
  have filled : trim "Height" ≠ "" := by decide +kernel
  have named : ¬ NamesNoSet (some "Pset_Wall") := by decide
  exact ⟨alike, evaluate_markedWall named filled, evaluate_markedWall named (alike ▸ filled)⟩

/-! ## The value of an element -/

/-- A value and the text to compare it with are seen alike in comparisons. -/
theorem comparable_eq (valued : v ≠ .null) :
    comparable v = lower (trim (NodeOptions.comparisonText v)) := by
  cases v with
  | null => exact absurd rfl valued
  | bool b => cases b <;> decide +kernel
  | _ => rfl

theorem equalsExpected_comparisonText (valued : v ≠ .null) :
    equalsExpected v (NodeOptions.comparisonText v) = .ok true := by
  rw [equalsExpected, if_pos (comparable_eq valued)]

/-- The options of a filter as they are given, with the value to compare with as it is. -/
def rawBag (name : String) (set : Option String) (operator : FilterOperator) (v : Value) : Bag :=
  [("filterType", Choice.value FilterType.property), ("property", .text name),
    ("operator", Choice.value operator), ("value", v)] ++
      (set.map fun set => ("psetName", .text set)).toList

/-- The bag is taken as it is given, and what to compare with becomes a text. -/
theorem ofValue_rawBag : NodeOptions.ofValue .filter (.map (rawBag name set operator v)) =
    .ok (.filter (onProperty name set operator (NodeOptions.comparisonText v))) := by
  have option {α : Type} {key : String} {w : Value} {a default : α} {read : Scalar.Reader α}
      (given : (rawBag name set operator v).value? (NodeOptions.optionSpellings .filter key) =
        some w) (back : read w = .ok a) :
      optionAt (rawBag name set operator v) (NodeOptions.optionSpellings .filter key) default
        (.ofScalar read) = .ok a := by
    rw [optionAt_eq_ok_iff, given]
    exact Reading.ofScalar_eq_ok_iff.mpr back
  have setName : optionAt (rawBag name set operator v)
      (NodeOptions.optionSpellings .filter "pset_name") none
      (.ofScalar (Scalar.optional Scalar.text)) = .ok set := by
    cases set with
    | none => rfl
    | some set => exact option rfl rfl
  rw [NodeOptions.ofValue_map, NodeOptions.read_eq_ok_iff]
  refine ⟨by cases set <;> rfl, ?_⟩
  exact Reading.fmap_of_eq_ok <| Reading.seq_of_eq_ok (Reading.seq_of_eq_ok (Reading.seq_of_eq_ok
    (Reading.seq_of_eq_ok (Reading.fmap_of_eq_ok (option rfl (Scalar.choice_value _)))
    (option rfl (Scalar.text_text _))) (option rfl (Scalar.choice_value _))) (option rfl rfl))
    setName

theorem compare_comparisonText (valued : v ≠ .null) :
    compare (some v) .equals (NodeOptions.comparisonText v) = .ok true ∧
      compare (some v) .notEquals (NodeOptions.comparisonText v) = .ok false := by
  have equal := equalsExpected_comparisonText valued
  have negated : (equalsExpected v (NodeOptions.comparisonText v)).map (!·) = .ok false := by
    rw [equal]
    rfl
  cases v with
  | null => exact absurd rfl valued
  | _ => exact ⟨equal, negated⟩

/-- An element passes the test of its own value, and no collection that goes through the filter loses
it; the opposite filter never lets it through. -/
theorem keeps_own_value (found : e.filtered? name set = some v) (valued : v ≠ .null) :
    ∃ same other : FilterOptions,
      NodeOptions.ofValue .filter (.map (rawBag name set .equals v)) = .ok (.filter same) ∧
      NodeOptions.ofValue .filter (.map (rawBag name set .notEquals v)) = .ok (.filter other) ∧
      compare (same.valueOf e) same.operator same.value = .ok true ∧
      compare (other.valueOf e) other.operator other.value = .ok false ∧
      (∀ inputs source c, inputs.main = .ok source → e ∈ source.elements →
        (same.evaluate inputs = .ok (.elements c) → e ∈ c.elements) ∧
        (other.evaluate inputs = .ok (.elements c) → e ∉ c.elements)) ∧
      (trim name ≠ "" → ∀ model,
        same.evaluate (.feeding ⟨[e], model⟩) = .ok (.elements ⟨[e], model⟩) ∧
        other.evaluate (.feeding ⟨[e], model⟩) = .ok (.elements ⟨[], model⟩)) := by
  obtain ⟨passes, fails⟩ := compare_comparisonText valued
  rw [← found, ← valueOf_onProperty] at passes fails
  refine ⟨_, _, ofValue_rawBag, ofValue_rawBag, passes, fails, fun inputs source c main member =>
    ⟨fun kept => ?_, fun kept => ?_⟩, fun filled model => ?_⟩
  · exact (mem_of_evaluate main kept).mpr ⟨member, passes⟩
  · intro through
    cases fails.symm.trans ((mem_of_evaluate main kept).mp through).2
  · exact ⟨evaluate_alone filled passes model, evaluate_alone filled fails model⟩

/-- A list with a truth value in it, which is written in another way than one that stands alone. -/
theorem keeps_own_value_layers :
    let layers : Value := .list [.bool true, .float (.nan ""), .text "  Brick"]
    let wall := loadedWall 1 (some layers)
    wall.filtered? "Load" none = some layers ∧ layers ≠ .null ∧ trim "Load" ≠ "" ∧
      ∃ same other : FilterOptions,
        NodeOptions.ofValue .filter (.map (rawBag "Load" none .equals layers)) =
          .ok (.filter same) ∧
        NodeOptions.ofValue .filter (.map (rawBag "Load" none .notEquals layers)) =
          .ok (.filter other) ∧
        same.evaluate (.feeding ⟨[wall], none⟩) = .ok (.elements ⟨[wall], none⟩) ∧
        other.evaluate (.feeding ⟨[wall], none⟩) = .ok (.elements ⟨[], none⟩) := by
  intro layers wall
  have found : wall.filtered? "Load" none = some layers := rfl
  have valued : layers ≠ .null := nofun
  have filled : trim "Load" ≠ "" := by decide +kernel
  obtain ⟨same, other, read, read', -, -, -, alone⟩ := keeps_own_value found valued
  exact ⟨found, valued, filled, same, other, read, read', alone filled none⟩

end FilterOptions

end BuildingWorkflow
