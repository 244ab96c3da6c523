import BuildingWorkflow.Proofs.Ifc.Loading
import BuildingWorkflow.Proofs.Ifc.Writing
import BuildingWorkflow.Proofs.Node.Edited

/-!
Edited elements, written back into the file that they come from.

What an edited element has in its sets is in the sets of its product afterwards. What it no longer
has is still there: a property that was removed is not an entry of the element, and only entries are
written.
-/
namespace BuildingWorkflow

/-- What is held of a property stands for a value: it is the value as it is written, or equal to it.
That nothing is held stands for null. -/
def StandsFor (held : Option Value) (v : Value) : Prop :=
  held = some (writable v) ∨ (held.getD .null).same v

namespace IfcFile

variable {file : IfcFile} {i : Nat} {p : Product} {e e' : Element}

/-- Every set is a mapping that has each name once and a number, and sets with one number are one
set. -/
structure Consistent (file : IfcFile) : Prop where
  sets : ∀ i set v, file.setAt? i set = some v → ∃ entries n, v = .map entries ∧
    (entries.map Prod.fst).Nodup ∧ entries.lookup setNumber = some (.int n)
  alike : ∀ i set j other n, file.numberAt? i set = some (.int n) →
    file.numberAt? j other = some (.int n) → set = other ∧ file.setAt? i set = file.setAt? j other

namespace Consistent

theorem numbered (consistent : file.Consistent) : file.Numbered :=
  ⟨consistent.sets, fun i set j other n has has' => (consistent.alike i set j other n has has').1⟩

/-- What is held of a set is what each product has of it. -/
theorem held?_eq (consistent : file.Consistent) (i : Nat) (set name : String) :
    file.held? i set name = (file.setAt? i set).bind fun v => (setEntries v).lookup name := by
  rw [held?]
  cases has : file.numberAt? i set with
  | none => rw [place, has]
  | some number =>
      obtain ⟨entries, n, rfl, -⟩ := consistent.numbered.exists_entries has
      have there := consistent.numbered.numberAt?_placeNumbered has
      rw [place_eq has, (consistent.alike _ _ _ _ n there has).2]

end Consistent

theorem setAt?_eq (present : file.products[i]? = some p) (set : String) :
    file.setAt? i set = p.psets.find? set := by
  rw [setAt?, present, Option.bind_some]

/-- A property that an element never had is in no set of its product. -/
theorem Consistent.held?_eq_none (consistent : file.Consistent)
    (present : file.products[i]? = some p) (loaded : p.toElement = .ok e) {set name : String}
    (named : name ≠ setNumber) (absent : valueIn? e.psets set name = none) :
    file.held? i set name = none := by
  rw [consistent.held?_eq, setAt?_eq present]
  cases held : p.psets.find? set with
  | none => rfl
  | some v =>
      obtain ⟨entries, n, rfl, nodup, -⟩ :=
        consistent.sets i set v ((setAt?_eq present set).trans held)
      rw [Product.valueIn?_of_toElement loaded held nodup, if_neg named,
        Option.map_eq_none_iff] at absent
      exact absent

/-- A value of an element stands in the file after it was written. -/
theorem Consistent.standsFor_heldAfter (consistent : file.Consistent)
    (present : file.products[i]? = some p) {set name : String} (named : name ≠ setNumber)
    (v : Value) : StandsFor (file.heldAfter i p.psets set name (some v)) v := by
  rw [heldAfter, consistent.held?_eq, setAt?_eq present]
  cases different : differs ((p.psets.find? set).map setEntries) name v with
  | true =>
      rw [Option.filter_some_pos different]
      exact .inl rfl
  | false =>
      rw [Option.filter_some_neg (by simp [different])]
      cases held : p.psets.find? set with
      | none => simp [held, differs, named] at different
      | some set =>
          refine .inr ?_
          simpa [held, differs, named] using different

/-- An element that went through editing nodes is written into the sets of its product. What it has
is held there afterwards, and what it lacks is held as before the writing; so where no node removed
anything, nothing is held that the element lacks. -/
theorem applySets_edited (consistent : file.Consistent) (present : file.products[i]? = some p)
    (loaded : p.toElement = .ok e) {nodes : List NodeOptions} {c c' : Collection}
    (edited : Edited nodes c c') {k : Nat} (before : c.elements[k]? = some e)
    (after : c'.elements[k]? = some e') :
    ∃ edits written, file.applySets i p.psets e'.psets.entries = .ok (edits, written) ∧
      ∀ set name, name ≠ setNumber →
        (∀ v, valueIn? e'.psets set name = some v → StandsFor (written.held? i set name) v) ∧
        (valueIn? e'.psets set name = none →
          written.held? i set name = file.held? i set name ∧
          ((∀ options ∈ nodes, ¬ options.Removes) → written.held? i set name = none)) := by
  obtain ⟨edits, written, done, held⟩ := consistent.numbered.applySets present e'.psets.entries
    e'.psets.nodup fun entry _ => setAt?_eq present entry.1
  refine ⟨edits, written, done, ?_⟩
  intro set name named
  have held := held set name named
  constructor
  · intro v has
    rw [held, ← OrderedMap.find?, ← valueIn?, has]
    exact consistent.standsFor_heldAfter present named v
  · intro lacks
    have same : written.held? i set name = file.held? i set name := by
      rw [held, ← OrderedMap.find?, ← valueIn?, lacks]
      rfl
    refine ⟨same, fun removeless => ?_⟩
    rw [same]
    refine consistent.held?_eq_none present loaded named ?_
    have keeps := edited.keeps removeless before after set name
    rw [lacks] at keeps
    exact Option.not_isSome_iff_eq_none.mp fun present => by cases keeps present

theorem consistent_wallWith {name : String} (named : name ≠ setNumber) (v : Value) :
    (IfcFile.withProduct (.wallWith name v)).Consistent := by
  have only (i : Nat) (set : String) (w : Value)
      (held : (IfcFile.withProduct (.wallWith name v)).setAt? i set = some w) :
      i = 0 ∧ set = "Pset_Wall" ∧ w = .map [(setNumber, .int 11), (name, v)] := by
    cases i with
    | zero => exact ⟨rfl, Product.find?_wallWith held⟩
    | succ i => cases held
  constructor
  · intro i set w held
    obtain ⟨-, -, rfl⟩ := only i set w held
    exact ⟨_, 11, rfl, by simpa using named.symm, rfl⟩
  · intro i set j other n has has'
    obtain ⟨w, held, -⟩ := Option.bind_eq_some_iff.mp has
    obtain ⟨w', held', -⟩ := Option.bind_eq_some_iff.mp has'
    obtain ⟨rfl, rfl, -⟩ := only i set w held
    obtain ⟨rfl, rfl, -⟩ := only j other w' held'
    exact ⟨rfl, rfl⟩

end IfcFile

/-- A wall with a fire rating, a node that writes another rating, and one that removes it. -/
def ratedWall : Product := .wallWith "FireRating" (.text "F90")
def rate : NodeOptions := .property ⟨"Pset_Wall:FireRating", .set, .text "F120", "any", false⟩
def unrate : NodeOptions := .property ⟨"Pset_Wall:FireRating", .remove, .null, "any", false⟩

theorem IfcFile.applySets_edited_rate : ∃ e c e' edits written,
    ratedWall.toElement = .ok e ∧ Edited [rate] ⟨[e], none⟩ c ∧ c.elements[0]? = some e' ∧
      (IfcFile.withProduct ratedWall).applySets 0 ratedWall.psets e'.psets.entries =
        .ok (edits, written) ∧
      StandsFor (written.held? 0 "Pset_Wall" "FireRating") (.text "F120") := by
  obtain ⟨e, loaded⟩ : ∃ e, ratedWall.toElement = .ok e := ⟨_, rfl⟩
  obtain ⟨c, edited, e', after, rated⟩ : ∃ c, Edited [rate] ⟨[e], none⟩ c ∧
      ∃ e', c.elements[0]? = some e' ∧
        valueIn? e'.psets "Pset_Wall" "FireRating" = some (.text "F120") := by
    cases loaded
    exact ⟨_, .single .unaided nofun rfl, _, rfl, rfl⟩
  have named : "FireRating" ≠ setNumber := by decide
  have consistent : (IfcFile.withProduct ratedWall).Consistent :=
    IfcFile.consistent_wallWith named _
  have present : (IfcFile.withProduct ratedWall).products[0]? = some ratedWall := rfl
  obtain ⟨edits, written, done, stands⟩ :=
    IfcFile.applySets_edited consistent present loaded edited rfl after
  exact ⟨e, c, e', edits, written, loaded, edited, after, done,
    (stands _ _ named).1 _ rated⟩

/-- The rating is removed from the element, no edit is made, and the file still holds it. -/
theorem IfcFile.applySets_edited_unrate : ∃ e c e',
    ratedWall.toElement = .ok e ∧ Edited [unrate] ⟨[e], none⟩ c ∧ c.elements[0]? = some e' ∧
      valueIn? e'.psets "Pset_Wall" "FireRating" = none ∧
      (IfcFile.withProduct ratedWall).applySets 0 ratedWall.psets e'.psets.entries =
        .ok ([], .withProduct ratedWall) ∧
      (IfcFile.withProduct ratedWall).held? 0 "Pset_Wall" "FireRating" = some (.text "F90") :=
  ⟨_, _, _, rfl, .single .unaided nofun rfl, rfl, rfl, rfl, rfl⟩

end BuildingWorkflow
