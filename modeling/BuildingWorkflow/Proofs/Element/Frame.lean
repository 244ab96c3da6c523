import BuildingWorkflow.Node.Property
import Mathlib.Data.List.Forall2
import Mathlib.Data.List.Nodup

/-!
What edits of a property leave alone.

An edit is told from the entries before and after it, in their order. Writing replaces one entry where
it stands or puts a new one at the end; removing takes at most one entry out. Everything else is in
its place with its value, in the flat map, in each set and among the sets themselves.
-/
namespace BuildingWorkflow

section Entries

variable {α : Type} {name : String}

/-- Entries before and after a write under a name: in the place of the entry with this name, if there
is one, and at the end otherwise. What is written stands in a relation to what was there. -/
inductive WrittenAt (name : String) (relates : Option α → α → Prop) :
    List (String × α) → List (String × α) → Prop
  | inPlace (front back : List (String × α)) {old new : α} (related : relates (some old) new) :
      WrittenAt name relates (front ++ (name, old) :: back) (front ++ (name, new) :: back)
  | last (entries : List (String × α)) {new : α} (fresh : name ∉ entries.map Prod.fst)
      (related : relates none new) : WrittenAt name relates entries (entries ++ [(name, new)])

/-- Entries before and after the one with a name is taken out, if there is one. -/
inductive ErasedAt (name : String) : List (String × α) → List (String × α) → Prop
  | here (front back : List (String × α)) (old : α) :
      ErasedAt name (front ++ (name, old) :: back) (front ++ back)
  | absent (entries : List (String × α)) (fresh : name ∉ entries.map Prod.fst) :
      ErasedAt name entries entries

theorem WrittenAt.cons {relates : Option α → α → Prop} {entries entries' : List (String × α)}
    {entry : String × α} (other : entry.1 ≠ name) (written : WrittenAt name relates entries entries') :
    WrittenAt name relates (entry :: entries) (entry :: entries') := by
  cases written with
  | inPlace front back related => exact .inPlace (entry :: front) back related
  | last _ fresh related =>
      refine .last (entry :: entries) ?_ related
      rw [List.map_cons, List.mem_cons, not_or]
      exact ⟨other.symm, fresh⟩

theorem writtenAt_setEntry {relates : Option α → α → Prop} {entries : List (String × α)} {value : α}
    (related : relates (entries.lookup name) value) :
    WrittenAt name relates entries (setEntry name value entries) := by
  induction entries with
  | nil => exact .last [] List.not_mem_nil related
  | cons entry rest ih =>
      rw [lookup_cons_ite] at related
      by_cases here : entry.1 = name
      · obtain ⟨key, old⟩ := entry
        subst here
        rw [if_pos rfl] at related
        rw [setEntry, if_pos rfl]
        exact .inPlace [] rest related
      · rw [if_neg (Ne.symm here)] at related
        rw [setEntry, if_neg here]
        exact (ih related).cons here

theorem writtenAt_insert {relates : Option α → α → Prop} {m : OrderedMap α} {value : α}
    (related : relates (m.find? name) value) :
    WrittenAt name relates m.entries (m.insert name value).entries :=
  writtenAt_setEntry related

theorem erasedAt_erase (m : OrderedMap α) (name : String) :
    ErasedAt name m.entries (m.erase name).entries := by
  by_cases present : name ∈ m.keys
  · obtain ⟨value, found⟩ := OrderedMap.exists_find? present
    obtain ⟨front, back, split⟩ :=
      List.append_of_mem ((m.mem_entries_iff name value).mpr found)
    have distinct := m.nodup
    rw [split, List.map_append, List.map_cons, List.nodup_middle, List.nodup_cons,
      ← List.map_append] at distinct
    have kept : (front ++ back).filter (fun entry => entry.1 != name) = front ++ back := by
      rw [List.filter_eq_self]
      intro entry member
      have other : entry.1 ≠ name := fun same =>
        distinct.1 (List.mem_map.mpr ⟨entry, member, same⟩)
      exact bne_iff_ne.mpr other
    have rest : (m.erase name).entries = front ++ back := by
      rw [← kept]
      change m.entries.filter (fun entry => entry.1 != name) = _
      simp [split]
    rw [split, rest]
    exact .here front back value
  · rw [OrderedMap.erase_of_not_mem present]
    exact .absent m.entries present

end Entries

/-- Sets by name before and after a property is taken out of those that are meant. The sets keep their
order, and one that has nothing left stays. -/
def ErasedWithin (meant : String → Prop) (name : String) (sets sets' : PropertySets) : Prop :=
  List.Forall₂ (fun held held' => held'.1 = held.1 ∧
      (meant held.1 → ErasedAt name held.2.entries held'.2.entries) ∧
      (¬ meant held.1 → held'.2 = held.2))
    sets.entries sets'.entries

namespace Element

/-- The set into which a value is written when a set, or none, is named. -/
def writtenSet (set : String) : String := if set = anySet then fallbackSet else set

/-- The sets from which a name is removed when a set, or none, is named. -/
def Means (set other : String) : Prop := set = anySet ∨ other = set

/-- Elements that have in common all that no edit of a property is about. -/
structure SharesRest (e e' : Element) : Prop where
  id : e'.id = e.id
  expressId : e'.expressId = e.expressId
  type : e'.type = e.type
  classifications : e'.classifications = e.classifications
  transform : e'.transform = e.transform

/-- The second element is the first one with a value written under a name, in the flat map and in one
set, and with word of it as the last look-up. -/
structure WrittenAlone (name set : String) (v : Value) (e e' : Element) : Prop where
  rest : SharesRest e e'
  properties : WrittenAt name (fun _ new => new = v) e.properties.entries e'.properties.entries
  psets : WrittenAt set
    (fun old new => WrittenAt name (fun _ new => new = v)
      ((old.map OrderedMap.entries).getD []) new.entries)
    e.psets.entries e'.psets.entries
  qtos : e'.qtos = e.qtos
  propertyInfo : e'.propertyInfo = some ⟨name, true, v, set⟩

/-- The second element is the first one without a name, in the flat map and in the sets that are
meant, and with word of it as the last look-up. -/
structure ErasedAlone (name : String) (meant : String → Prop) (e e' : Element) : Prop where
  rest : SharesRest e e'
  properties : ErasedAt name e.properties.entries e'.properties.entries
  psets : ErasedWithin meant name e.psets e'.psets
  qtos : ErasedWithin meant name e.qtos e'.qtos
  propertyInfo : ∃ setName, e'.propertyInfo = some ⟨name, false, .null, setName⟩

variable (e : Element) (name set : String)

theorem writtenAlone_setProperty (v : Value) :
    WrittenAlone name (writtenSet set) v e (e.setProperty name set v) where
  rest := ⟨rfl, rfl, rfl, rfl, rfl⟩
  properties := writtenAt_insert rfl
  psets := by
    apply writtenAt_insert
    change WrittenAt _ _ _ (((e.psets.find? (writtenSet set)).getD .empty).insert name v).entries
    cases e.psets.find? (writtenSet set) with
    | none => exact writtenAt_insert (m := .empty) rfl
    | some values => exact writtenAt_insert (m := values) rfl
  qtos := rfl
  propertyInfo := rfl

theorem erasedWithin_removeFrom (sets : PropertySets) :
    ErasedWithin (Means set) name sets (removeFrom sets set name) := by
  unfold ErasedWithin removeFrom
  by_cases all : set = anySet
  · rw [if_pos all]
    refine List.forall₂_map_right_iff.mpr (List.forall₂_same.mpr fun held _ => ⟨rfl, ?_, ?_⟩)
    · exact fun _ => erasedAt_erase held.2 name
    · exact fun spared => absurd (.inl all) spared
  · rw [if_neg all]
    refine List.forall₂_map_right_iff.mpr (List.forall₂_same.mpr fun held _ => ⟨rfl, ?_, ?_⟩)
    · intro meant
      change ErasedAt name held.2.entries (if held.1 = set then _ else held.2).entries
      rw [if_pos (meant.resolve_left all)]
      exact erasedAt_erase held.2 name
    · exact fun spared => if_neg fun here => spared (.inr here)

theorem erasedAlone_removeProperty :
    ErasedAlone name (Means set) e (e.removeProperty name set) where
  rest := ⟨rfl, rfl, rfl, rfl, rfl⟩
  properties := erasedAt_erase e.properties name
  psets := erasedWithin_removeFrom name set e.psets
  qtos := erasedWithin_removeFrom name set e.qtos
  propertyInfo := ⟨_, rfl⟩

/-- Writing a property changes the entry with its name in the flat map and in one set and nothing
else, and removing it takes this entry out of the flat map and of the property and quantity sets that
are meant, which are all if none is named. -/
theorem edited_alone :
    (∀ v, WrittenAlone name (writtenSet set) v e (e.setProperty name set v)) ∧
      ErasedAlone name (Means set) e (e.removeProperty name set) :=
  ⟨writtenAlone_setProperty e name set, erasedAlone_removeProperty e name set⟩

end Element

end BuildingWorkflow
