import BuildingWorkflow.Node.Options

/-!
When options are read.

A reading gives something exactly when all its parts do. An option depends on the value under the
first of its spellings alone, and a bag is taken only if every key of it is read.
-/
namespace BuildingWorkflow

namespace Reading

variable {α β : Type}

theorem under_eq_ok_iff {r : Reading α} {key : String} {a : α} :
    r.under key = .ok a ↔ r = .ok a := by
  cases r <;> simp [under]

theorem seq_eq_ok_iff {f : Reading (α → β)} {x : Reading α} {b : β} :
    f <*> x = .ok b ↔ ∃ g a, f = .ok g ∧ x = .ok a ∧ g a = b := by
  cases f <;> cases x <;> simp [Seq.seq, apply]

theorem fmap_eq_ok_iff {f : α → β} {x : Reading α} {b : β} :
    f <$> x = .ok b ↔ ∃ a, x = .ok a ∧ f a = b := by
  cases x <;> simp [Functor.map, map]

theorem fmap_of_eq_ok {f : α → β} {x : Reading α} {a : α} (h : x = .ok a) :
    f <$> x = .ok (f a) := fmap_eq_ok_iff.mpr ⟨a, h, rfl⟩

theorem seq_of_eq_ok {f : Reading (α → β)} {x : Reading α} {g : α → β} {a : α} (hf : f = .ok g)
    (hx : x = .ok a) : f <*> x = .ok (g a) := seq_eq_ok_iff.mpr ⟨g, a, hf, hx, rfl⟩

theorem ofScalar_eq_ok_iff {read : Scalar.Reader α} {v : Value} {a : α} :
    ofScalar read v = .ok a ↔ read v = .ok a := by
  unfold ofScalar
  cases read v <;> simp

end Reading

/-! ## Spellings -/

/-- The value under the first of some spellings that a bag has. -/
def Bag.value? (bag : Bag) (keys : List String) : Option Value := keys.findSome? (bag.lookup ·)

section Spellings

variable {α : Type} {bag : Bag} {keys : List String} {read : Value → Reading α} {a : α}

theorem Bag.value?_cons (bag : Bag) (key : String) (keys : List String) :
    bag.value? (key :: keys) = (bag.lookup key).or (bag.value? keys) := by
  rw [value?, value?, List.findSome?_cons]
  cases bag.lookup key <;> rfl

theorem spelled?_nil (keys : List String) : spelled? [] keys = none :=
  List.findSome?_eq_none_iff.mpr fun _ _ => rfl

theorem map_snd_spelled? (bag : Bag) (keys : List String) :
    (spelled? bag keys).map Prod.snd = bag.value? keys := by
  induction keys with
  | nil => rfl
  | cons key keys ih =>
      rw [Bag.value?_cons, ← ih, spelled?, List.findSome?_cons]
      cases bag.lookup key <;> rfl

theorem optionAt_eq_ok_iff {default : α} :
    optionAt bag keys default read = .ok a ↔
      (bag.value? keys).elim (a = default) fun v => read v = .ok a := by
  rw [optionAt, ← map_snd_spelled?]
  cases spelled? bag keys with
  | none => simp [eq_comm]
  | some spelled => simp [Reading.under_eq_ok_iff]

/-- What holds of a default and of all that is read holds of an option. -/
theorem of_optionAt {p : α → Prop} {default : α} (h : optionAt bag keys default read = .ok a)
    (absent : p default) (given : ∀ v, read v = .ok a → p a) : p a := by
  rw [optionAt_eq_ok_iff] at h
  cases found : bag.value? keys with
  | none =>
      rw [found] at h
      exact (show a = default from h) ▸ absent
  | some v =>
      rw [found] at h
      exact given v h

theorem requiredAt_eq_ok_iff :
    requiredAt bag keys read = .ok a ↔ ∃ v, bag.value? keys = some v ∧ read v = .ok a := by
  rw [requiredAt, ← map_snd_spelled?]
  cases spelled? bag keys with
  | none => simp
  | some spelled => simp [Reading.under_eq_ok_iff]

theorem closed_eq_ok_iff {options : List (List String)} {r : Reading α} :
    closed bag options r = .ok a ↔ unreadKeys bag options = [] ∧ r = .ok a := by
  unfold closed
  cases unreadKeys bag options with
  | nil => simp
  | cons key keys => cases r <;> simp [Reading.apply, Reading.map]

end Spellings

/-! ## Kinds -/

namespace NodeOptions

variable {kind : NodeKind} {bag : Bag} {options : NodeOptions}

theorem read_eq_ok_iff : read kind bag = .ok options ↔
    unreadKeys bag ((optionNames kind).map (optionSpellings kind)) = [] ∧
      readFields kind bag = .ok options := by
  rw [← closed_eq_ok_iff, read]
  cases closed bag ((optionNames kind).map (optionSpellings kind)) (readFields kind bag) <;>
    simp [Reading.toExcept]

theorem readFields_of_read (h : read kind bag = .ok options) :
    readFields kind bag = .ok options := (read_eq_ok_iff.mp h).2

theorem kind_of_read (h : read kind bag = .ok options) : options.kind = kind := by
  have fields := readFields_of_read h
  cases kind <;>
    · obtain ⟨_, -, rfl⟩ := Reading.fmap_eq_ok_iff.mp fields
      rfl

theorem ofValue_map (kind : NodeKind) (bag : Bag) : ofValue kind (.map bag) = read kind bag := by
  cases bag <;> rfl

theorem exists_read_of_ofValue {raw : Value} (taken : ofValue kind raw = .ok options) :
    ∃ bag, read kind bag = .ok options := by
  unfold ofValue at taken
  split at taken
  · split at taken
    · exact ⟨_, taken⟩
    · cases taken
  · exact ⟨[], taken⟩

end NodeOptions

end BuildingWorkflow
