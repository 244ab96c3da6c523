import BuildingWorkflow.Proofs.Node.Export
import BuildingWorkflow.Proofs.Text.Names
import BuildingWorkflow.Proofs.Text.Parts

/-!
Exports without configured columns.

Their columns are the properties of the first element, each under its own name. The record of that
element shows what these names lead to when they are read as paths: the properties themselves, as
long as no name has a point in it or blanks at its ends. Under any other name the column has nothing
to do with the property.
-/
namespace BuildingWorkflow

/-- A name with no point in it and no blanks at its ends, which as a path stands for itself. -/
def PlainName (name : String) : Prop := trim name = name ∧ '.' ∉ name.toList

instance (name : String) : Decidable (PlainName name) :=
  inferInstanceAs (Decidable (trim name = name ∧ '.' ∉ name.toList))

namespace Element

variable (e : Element) {name : String}

theorem resolvePath?_of_plain (plain : PlainName name) (member : name ∈ e.properties.keys) :
    e.resolvePath? name = e.findFlat? name := by
  obtain ⟨trimmed, pointless⟩ := plain
  obtain ⟨v, held⟩ := OrderedMap.exists_find? member
  have flat : e.findFlat? name = some ⟨v, ""⟩ := by rw [findFlat?, held, Option.map_some]
  simp only [resolvePath?, trimmed, cutOnce?_eq_none_iff.mpr pointless, findProperty?, flat,
    Option.some_or]

/-- Under a name that is not plain a path does not come to the property of that name, so its value
makes no difference. -/
theorem resolvePath?_of_not_plain (odd : ¬ PlainName name) (v : Value) :
    { e with properties := e.properties.insert name v }.resolvePath? name =
      e.resolvePath? name := by
  cases cut : cutOnce? '.' (trim name) with
  | some parts => simp only [resolvePath?, cut]
  | none =>
      have other : trim name ≠ name := by
        intro trimmed
        refine odd ⟨trimmed, ?_⟩
        rwa [trimmed, cutOnce?_eq_none_iff] at cut
      simp only [resolvePath?, cut, findProperty?, findFlat?, OrderedMap.find?_insert, other,
        if_false]

end Element

namespace ExportOptions

variable {options : ExportOptions} {inputs : Inputs} {source : Collection}

theorem evaluateText_eq (main : inputs.main = .ok source) :
    options.evaluateText inputs =
      .ok (.text (options.tableText source.elements) (Choice.name options.format)
        options.fullName) := by
  rw [evaluateText, main]
  rfl

/-- A wall with a plain name among its properties, one with a point and one with a blank. -/
def pricedWall : Element := { PropertyOptions.measuredWall with
  properties := .ofList [("Name", .text "W"), ("Cost.Total", .int 12), (" Mark", .text "M1")] }

end ExportOptions

end BuildingWorkflow
