import BuildingWorkflow.Node.Property
import BuildingWorkflow.Proofs.Value.Equality

/-!
What elements supply to the value inlet.

Elements bring along the look-ups that earlier nodes attached to them. They never supply anything
but the first value that was found. They supply it when all other values that were found are equal
to it, and when the first look-up of all is the one that found it; they do not when look-ups that
found nothing come first and the values found after them differ.
-/
namespace BuildingWorkflow

namespace Collection

def lookUps (c : Collection) : List PropertyInfo := c.elements.filterMap Element.propertyInfo

/-- The values of the look-ups that found something. -/
def foundValues (c : Collection) : List Value :=
  (c.lookUps.filter PropertyInfo.found).map PropertyInfo.value

/-- A value is the first that was found, and the others are equal to it or the first look-up of all
is the one that found it. -/
def Supplies (c : Collection) (v : Value) : Prop :=
  ∃ rest, c.foundValues = v :: rest ∧
    ((∀ w ∈ rest, w.sameOrCopy v) ∨ ∃ info ∈ c.lookUps.head?, info.found)

variable {c : Collection} {v : Value}

theorem foundValues_of_head? {info : PropertyInfo} (first : c.lookUps.head? = some info)
    (found : info.found) : ∃ rest, c.foundValues = info.value :: rest := by
  obtain ⟨more, split⟩ := List.head?_eq_some_iff.mp first
  refine ⟨(more.filter PropertyInfo.found).map PropertyInfo.value, ?_⟩
  rw [foundValues, split, List.filter_cons_of_pos found, List.map_cons]

theorem valueFrom_eq (c : Collection) :
    valueFrom (.elements c) =
      match Value.distinct c.foundValues, c.lookUps with
      | [v], _ => .ok v
      | _, info :: _ => if info.found then .ok info.value else .error valueFrom.noProperty
      | _, [] => .error valueFrom.noProperty := rfl

theorem valueFrom_of_supplies (supplies : c.Supplies v) : valueFrom (.elements c) = .ok v := by
  obtain ⟨rest, values, settled⟩ := supplies
  rw [valueFrom_eq]
  split
  · rename_i u single
    obtain ⟨rest', values', -⟩ := Value.distinct_eq_singleton_iff.mp single
    rw [values] at values'
    rw [(List.cons.inj values').1]
  · rename_i info more listed several
    obtain copies | ⟨info', first, found⟩ := settled
    · exact absurd (Value.distinct_eq_singleton_iff.mpr ⟨rest, values, copies⟩) (several v)
    · obtain rfl : info = info' := by simpa [listed] using first
      obtain ⟨rest', values'⟩ := foundValues_of_head? first found
      rw [values] at values'
      rw [if_pos found, (List.cons.inj values').1]
  · rename_i nothing _
    simp [foundValues, nothing] at values

theorem valueFrom_of_not_supplies (supplies : ∀ v, ¬ c.Supplies v) :
    valueFrom (.elements c) = .error valueFrom.noProperty := by
  rw [valueFrom_eq]
  split
  · rename_i v single
    obtain ⟨rest, values, copies⟩ := Value.distinct_eq_singleton_iff.mp single
    exact absurd ⟨rest, values, .inl copies⟩ (supplies v)
  · rename_i info more listed several
    split
    · rename_i found
      have first : c.lookUps.head? = some info := by rw [listed, List.head?_cons]
      obtain ⟨rest, values⟩ := foundValues_of_head? first found
      exact absurd ⟨rest, values, .inr ⟨info, first, found⟩⟩ (supplies info.value)
    · rfl
  · rfl

/-- Elements supply the first value that was found, if the others are equal to it or the first
look-up found it. In all other cases reading a value from them fails, and tells that they have
none. -/
theorem valueFrom_elements (c : Collection) :
    (∀ v, valueFrom (.elements c) = .ok v ↔ c.Supplies v) ∧
    ∀ fault, valueFrom (.elements c) = .error fault ↔ (∀ v, ¬ c.Supplies v) ∧
      fault = .invalidInput valueInlet "elements carrying a looked-up property"
        "no property value" := by
  by_cases filled : ∃ v, c.Supplies v
  · obtain ⟨v, supplies⟩ := filled
    have ok := valueFrom_of_supplies supplies
    refine ⟨fun w => ?_, fun fault => ?_⟩
    · rw [ok, Except.ok.injEq]
      refine ⟨fun same => same ▸ supplies, fun supplies' => ?_⟩
      exact Except.ok.inj (ok.symm.trans (valueFrom_of_supplies supplies'))
    · rw [ok]
      exact ⟨nofun, fun ⟨void, _⟩ => absurd supplies (void v)⟩
  · have void := not_exists.mp filled
    have error := valueFrom_of_not_supplies void
    refine ⟨fun w => ?_, fun fault => ?_⟩
    · rw [error]
      exact ⟨nofun, fun supplies => absurd supplies (void w)⟩
    · rw [error, Except.error.injEq]
      exact ⟨fun same => ⟨void, same.symm⟩, fun ⟨_, same⟩ => same.symm⟩

/-- A wall whose fire rating was looked up. -/
def ratedWall (expressId : Int) (rating : Option String) : Element :=
  { Element.create expressId "IfcWall" .empty .empty .empty [] with
    propertyInfo := some ⟨"FireRating", rating.isSome, rating.elim .null .text, ""⟩ }

/-- Two ratings were found, but the first wall has none, so neither of them is supplied. -/
theorem valueFrom_elements_late :
    let c : Collection :=
      ⟨[ratedWall 1 none, ratedWall 2 (some "F90"), ratedWall 3 (some "F30")], none⟩
    c.foundValues = [.text "F90", .text "F30"] ∧
      valueFrom (.elements c) = .error (.invalidInput "value"
        "elements carrying a looked-up property" "no property value") := by
  exact ⟨rfl, rfl⟩

end Collection

end BuildingWorkflow
