import BuildingWorkflow.Value.Equality
import Mathlib.Data.List.Forall2

/-!
Nested values and their equality.

Values hold others in lists of items and of entries. Functions that go through such a list are
brought to the form of a statement about every item or entry of it, so that an induction over values
needs no induction over lists inside. Of values that are all equal to the first one, or copies of
it, the first is the only distinct one.
-/
namespace BuildingWorkflow

namespace Value

/-- Induction over a value, through the items and entries in it. -/
@[elab_as_elim]
theorem nested {motive : Value → Prop} (null : motive null) (bool : ∀ b, motive (bool b))
    (int : ∀ n, motive (int n)) (float : ∀ x, motive (float x)) (text : ∀ s, motive (text s))
    (list : ∀ items, (∀ v ∈ items, motive v) → motive (list items))
    (map : ∀ entries, (∀ entry ∈ entries, motive entry.2) → motive (map entries)) (v : Value) :
    motive v :=
  match v with
  | .null => null
  | .bool b => bool b
  | .int n => int n
  | .float x => float x
  | .text s => text s
  | .list items => list items fun v _ => nested null bool int float text list map v
  | .map entries => map entries fun entry _ => nested null bool int float text list map entry.2
termination_by sizeOf v
decreasing_by
  · have smaller := List.sizeOf_lt_of_mem ‹v ∈ items›
    simp only [Value.list.sizeOf_spec]
    omega
  · have smaller := List.sizeOf_lt_of_mem ‹entry ∈ entries›
    have inside : sizeOf entry = 1 + sizeOf entry.1 + sizeOf entry.2 := rfl
    simp only [Value.map.sizeOf_spec]
    omega

/-- The parts of a value: itself, and the parts of its items and entries. -/
inductive Part : Value → Value → Prop
  | self (v : Value) : Part v v
  | item {part v : Value} {items : List Value} : v ∈ items → Part part v → Part part (list items)
  | entry {part : Value} {entry : String × Value} {entries : List (String × Value)} :
      entry ∈ entries → Part part entry.2 → Part part (map entries)

/-- A value and all its parts are of a kind. -/
def Everywhere (kind : Value → Prop) (v : Value) : Prop := ∀ part, Part part v → kind part

section Everywhere

variable {kind : Value → Prop}

theorem everywhere_of_atom {v : Value} (atom : ∀ part, Part part v → part = v) :
    v.Everywhere kind ↔ kind v :=
  ⟨fun all => all v (.self v), fun here part inside => atom part inside ▸ here⟩

@[simp] theorem everywhere_null : null.Everywhere kind ↔ kind null :=
  everywhere_of_atom (by rintro _ ⟨⟩; rfl)

@[simp] theorem everywhere_bool (b : Bool) : (bool b).Everywhere kind ↔ kind (bool b) :=
  everywhere_of_atom (by rintro _ ⟨⟩; rfl)

@[simp] theorem everywhere_int (n : Int) : (int n).Everywhere kind ↔ kind (int n) :=
  everywhere_of_atom (by rintro _ ⟨⟩; rfl)

@[simp] theorem everywhere_float (x : Binary64) : (float x).Everywhere kind ↔ kind (float x) :=
  everywhere_of_atom (by rintro _ ⟨⟩; rfl)

@[simp] theorem everywhere_text (s : String) : (text s).Everywhere kind ↔ kind (text s) :=
  everywhere_of_atom (by rintro _ ⟨⟩; rfl)

@[simp] theorem everywhere_list (items : List Value) :
    (list items).Everywhere kind ↔ kind (list items) ∧ ∀ v ∈ items, v.Everywhere kind := by
  constructor
  · intro all
    exact ⟨all _ (.self _), fun v member part inside => all part (.item member inside)⟩
  · rintro ⟨here, within⟩ part inside
    cases inside with
    | self => exact here
    | item member inside => exact within _ member part inside

@[simp] theorem everywhere_map (entries : List (String × Value)) :
    (map entries).Everywhere kind ↔
      kind (map entries) ∧ ∀ entry ∈ entries, entry.2.Everywhere kind := by
  constructor
  · intro all
    exact ⟨all _ (.self _), fun entry member part inside => all part (.entry member inside)⟩
  · rintro ⟨here, within⟩ part inside
    cases inside with
    | self => exact here
    | entry member inside => exact within _ member part inside

end Everywhere

/-- The names of a mapping are distinct. -/
def Distinct : Value → Prop
  | map entries => (entries.map Prod.fst).Nodup
  | _ => True

/-! ## Equality -/

variable (eq : Binary64 → Binary64 → Bool)

theorem sameItemsBy_iff (xs ys : List Value) :
    sameItemsBy eq xs ys ↔ List.Forall₂ (fun x y => sameBy eq x y) xs ys := by
  induction xs generalizing ys with
  | nil => cases ys <;> simp [sameItemsBy]
  | cons x xs ih => cases ys <;> simp [sameItemsBy, ih]

theorem sameEntriesBy_iff (es fs : List (String × Value)) :
    sameEntriesBy eq es fs ↔
      ∀ entry ∈ es, ∃ y, fs.lookup entry.1 = some y ∧ sameBy eq entry.2 y := by
  induction es with
  | nil => simp [sameEntriesBy]
  | cons entry es ih =>
      obtain ⟨name, x⟩ := entry
      simp only [sameEntriesBy, List.forall_mem_cons]
      cases fs.lookup name with
      | none => simp
      | some y => simp [ih]

/-! ## Distinct values -/

/-! ## Distinct values -/

/-- Adds a value unless an equal one or a copy of it is there. -/
def withNew (seen : List Value) (v : Value) : List Value :=
  if seen.any (sameOrCopy v) then seen else seen ++ [v]

theorem distinct_eq_foldl (values : List Value) : distinct values = values.foldl withNew [] := rfl

theorem prefix_foldl_withNew (seen values : List Value) : seen <+: values.foldl withNew seen := by
  induction values generalizing seen with
  | nil => exact List.prefix_rfl
  | cons v rest ih =>
      refine List.IsPrefix.trans ?_ (ih (withNew seen v))
      unfold withNew
      split
      · exact List.prefix_rfl
      · exact List.prefix_append seen [v]

theorem foldl_withNew_eq_singleton_iff (first v : Value) (rest : List Value) :
    rest.foldl withNew [first] = [v] ↔ first = v ∧ ∀ w ∈ rest, w.sameOrCopy first := by
  induction rest with
  | nil => simp
  | cons w rest ih =>
      by_cases copy : w.sameOrCopy first
      · have stays : withNew [first] w = [first] := by simp [withNew, copy]
        simp [stays, ih, copy]
      · have grows : withNew [first] w = [first, w] := by simp [withNew, copy]
        rw [List.foldl_cons, grows]
        constructor
        · -- Two values that were kept stay in front of all that follow.
          intro single
          have kept := (prefix_foldl_withNew [first, w] rest).length_le
          rw [single] at kept
          simp at kept
        · rintro ⟨-, copies⟩
          exact absurd (copies w List.mem_cons_self) copy

theorem distinct_eq_singleton_iff {values : List Value} {v : Value} :
    distinct values = [v] ↔ ∃ rest, values = v :: rest ∧ ∀ w ∈ rest, w.sameOrCopy v := by
  rw [distinct_eq_foldl]
  cases values with
  | nil => simp
  | cons first rest =>
      have begins : withNew [] first = [first] := rfl
      rw [List.foldl_cons, begins, foldl_withNew_eq_singleton_iff]
      constructor
      · rintro ⟨rfl, copies⟩
        exact ⟨rest, rfl, copies⟩
      · rintro ⟨rest', same, copies⟩
        obtain ⟨rfl, rfl⟩ := List.cons.inj same
        exact ⟨rfl, copies⟩

end Value

theorem Binary64.same_self_iff (x : Binary64) : x.same x ↔ ∀ label, x ≠ .nan label := by
  cases x with
  | nan label => simp [Binary64.same]
  | infinite negative => simp [Binary64.same]
  | finite negative units h => simp [Binary64.same]

end BuildingWorkflow
