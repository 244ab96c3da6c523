import BuildingWorkflow.Proofs.Node.Property

/-!
Elements that go through nodes that edit them.

Property nodes that write or remove and classification nodes that assign edit each element on its
own and in its place. Only those that remove can lose a property of a set.
-/
namespace BuildingWorkflow

/-- What the property sets have of some properties the others have too. -/
def Keeps (sets sets' : PropertySets) : Prop :=
  ∀ set name, (valueIn? sets set name).isSome → (valueIn? sets' set name).isSome

namespace Element

theorem keeps_setProperty (e : Element) (name set : String) (v : Value) :
    Keeps e.psets (e.setProperty name set v).psets := by
  intro other name' present
  simp only [setProperty, valueIn?_writeInSet]
  by_cases here : other = (if set = anySet then fallbackSet else set) ∧ name' = name
  · rw [if_pos here, Option.isSome_some]
  · rwa [if_neg here]

theorem isSome_foldl_insert (fields : List (String × Value)) (values : OrderedMap Value)
    (name : String) (present : (values.find? name).isSome) :
    ((fields.foldl (fun values (name, v) => values.insert name v) values).find? name).isSome := by
  induction fields generalizing values with
  | nil => exact present
  | cons field rest ih =>
      apply ih
      rw [OrderedMap.find?_insert]
      split
      · rfl
      · exact present

theorem keeps_assignClassification (e : Element) (c : Classification) :
    Keeps e.psets (e.assignClassification c).psets := by
  intro set name present
  rw [assignClassification, valueIn?, OrderedMap.find?_update]
  split
  · rename_i same
    subst same
    obtain ⟨v, present⟩ := Option.isSome_iff_exists.mp present
    obtain ⟨values, found, held⟩ := Option.bind_eq_some_iff.mp present
    rw [found, Option.getD_some, Option.bind_some]
    exact isSome_foldl_insert _ _ _ (Option.isSome_of_eq_some held)
  · exact present

end Element

theorem PropertyOptions.exists_edit (o : PropertyOptions) {inputs : Inputs} {c c' : Collection}
    (main : inputs.main = .ok c) (done : o.evaluate inputs = .ok (.elements c')) :
    ∃ edit : Element → Element, c' = c.withElements (c.elements.map edit) ∧
      (o.action ≠ .get → o.action ≠ .remove → ∀ e, Keeps e.psets (edit e).psets) := by
  by_cases named : o.place.1 = ""
  · rw [evaluate_unnamed main named] at done
    cases done
    refine ⟨id, ?_, fun _ _ _ _ _ => id⟩
    rw [Collection.withElements, List.map_id]
  · cases supplied : o.valueFor inputs with
    | error fault =>
        rw [evaluate_unsupplied main named supplied] at done
        cases done
    | ok v =>
        rw [evaluate_eq main named supplied] at done
        cases done
        refine ⟨_, rfl, ?_⟩
        intro reads removes e
        unfold edit
        split
        · exact absurd ‹_› reads
        · exact e.keeps_setProperty _ _ v
        · exact e.keeps_setProperty _ _ v
        · exact absurd ‹_› removes

namespace NodeOptions

/-- Property nodes that write or remove, and classification nodes that assign. -/
def Edits : NodeOptions → Prop
  | property o => o.action ≠ .get
  | classification o => o.action = .set
  | _ => False

def Removes : NodeOptions → Prop
  | property o => o.action = .remove
  | _ => False

/-- A node that edits does something to every element, and keeps its properties if it removes
none. -/
theorem Edits.exists_edit {options : NodeOptions} (edits : options.Edits) {inputs : Inputs}
    {help : Collaborators} {c c' : Collection} (main : inputs.main = .ok c)
    (done : options.evaluate inputs help = .value (.elements c')) :
    ∃ edit : Element → Element, c' = c.withElements (c.elements.map edit) ∧
      (¬ options.Removes → ∀ e, Keeps e.psets (edit e).psets) := by
  cases options with
  | property o =>
      obtain ⟨edit, same, keeps⟩ := o.exists_edit main (Answer.ofExcept_eq_value done)
      exact ⟨edit, same, keeps edits⟩
  | classification o =>
      have done := Answer.ofExcept_eq_value done
      have action : o.action = .set := edits
      simp only [ClassificationOptions.evaluate, main, action, bind, Except.bind, pure, Except.pure,
        Except.ok.injEq, NodeResult.elements.injEq] at done
      exact ⟨_, done.symm, fun _ e => e.keeps_assignClassification _⟩
  | _ => exact edits.elim

end NodeOptions

/-- A collection comes out of editing nodes that stand in a row, each of them fed by the one before
at its main inlet and by anything at its other inlets. -/
inductive Edited : List NodeOptions → Collection → Collection → Prop
  | nil (c : Collection) : Edited [] c c
  | cons {options : NodeOptions} {rest : List NodeOptions} {inputs : Inputs} {help : Collaborators}
      {c c' c'' : Collection} : options.Edits → inputs.main = .ok c →
      options.evaluate inputs help = .value (.elements c') → Edited rest c' c'' →
      Edited (options :: rest) c c''

/-- Collaborators that nobody can ask for anything. -/
def Collaborators.unaided : Collaborators := ⟨fun _ => .silent, none, fun _ => false⟩

theorem Edited.single {options : NodeOptions} {c c' : Collection} (help : Collaborators)
    (edits : options.Edits)
    (done : options.evaluate (.feeding c) help = .value (.elements c')) :
    Edited [options] c c' :=
  .cons edits (Inputs.main_feeding c) done (.nil c')

theorem Edited.keeps {nodes : List NodeOptions} {c c' : Collection} (edited : Edited nodes c c')
    (removeless : ∀ options ∈ nodes, ¬ options.Removes) {k : Nat} {e e' : Element}
    (before : c.elements[k]? = some e) (after : c'.elements[k]? = some e') :
    Keeps e.psets e'.psets := by
  induction edited generalizing e with
  | nil c =>
      obtain rfl := Option.some.inj (before.symm.trans after)
      exact fun _ _ => id
  | cons edits main done _ ih =>
      obtain ⟨first, removeless⟩ := List.forall_mem_cons.mp removeless
      obtain ⟨edit, rfl, keeps⟩ := edits.exists_edit main done
      have between := ih removeless (e := edit e) (by simp [Collection.withElements, before]) after
      exact fun set name present => between set name (keeps first e set name present)

end BuildingWorkflow
