import BuildingWorkflow.Node.Options

/-!
No refusal is left unexplained: options that are not taken come with at least one fault.
-/
namespace BuildingWorkflow

namespace Reading

variable {α β : Type}

/-- A refusal comes with a fault. -/
def Explained : Reading α → Prop
  | ok _ => True
  | refused faults => faults ≠ []

theorem explained_ok (a : α) : (ok a).Explained := trivial

theorem explained_refused (fault : OptionFault) (faults : List OptionFault) :
    (refused (fault :: faults) : Reading α).Explained := List.cons_ne_nil fault faults

theorem Explained.map {r : Reading α} (h : r.Explained) (f : α → β) : (r.map f).Explained := by
  cases r with
  | ok a => trivial
  | refused faults => exact h

theorem Explained.fmap {r : Reading α} (h : r.Explained) (f : α → β) : (f <$> r).Explained :=
  h.map f

theorem Explained.seq {f : Reading (α → β)} {x : Reading α} (hf : f.Explained)
    (hx : x.Explained) : (f <*> x).Explained := by
  cases f with
  | ok f =>
      cases x with
      | ok a => trivial
      | refused faults => exact hx
  | refused faults =>
      cases x with
      | ok a => exact hf
      | refused more => exact List.append_ne_nil_of_left_ne_nil hf more

theorem Explained.under {r : Reading α} (h : r.Explained) (key : String) :
    (r.under key).Explained := by
  cases r with
  | ok a => trivial
  | refused faults => exact fun none => h (List.map_eq_nil_iff.mp none)

theorem explained_ofScalar (read : Scalar.Reader α) (v : Value) :
    (ofScalar read v).Explained := by
  simp only [ofScalar]
  split
  · exact explained_ok _
  · exact explained_refused _ _

end Reading

open Reading

theorem explained_optionAt {α : Type} (bag : Bag) (keys : List String) (default : α)
    {read : Value → Reading α} (h : ∀ v, (read v).Explained) :
    (optionAt bag keys default read).Explained := by
  simp only [optionAt]
  split
  · exact (h _).under _
  · exact explained_ok _

theorem explained_namedOption {α : Type} (bag : Bag) (name : String) (default : α)
    (read : Scalar.Reader α) : (namedOption bag name default read).Explained :=
  explained_optionAt bag _ default (explained_ofScalar read)

theorem explained_closed {α : Type} (bag : Bag) (options : List (List String)) {r : Reading α}
    (h : r.Explained) : (closed bag options r).Explained := by
  simp only [closed]
  split
  · exact h
  · rename_i unread
    exact (h.map _).seq fun none => unread (List.map_eq_nil_iff.mp none)

namespace NodeOptions

theorem explained_optionalBag {α : Type} (record : String) {read : Bag → Reading α}
    (h : ∀ bag, (read bag).Explained) (v : Value) : (optionalBag record read v).Explained := by
  simp only [optionalBag]
  split
  · exact explained_ok _
  · exact (h _).map some
  · exact explained_refused _ _

theorem explained_readRange (bag : Bag) : (readRange bag).Explained :=
  explained_closed bag _ <|
    ((explained_namedOption ..).fmap _).seq (explained_namedOption ..)

theorem explained_readTriple (bag : Bag) (name : String) (default : Binary64) :
    (readTriple bag name default).Explained :=
  (((explained_namedOption ..).fmap _).seq (explained_namedOption ..)).seq
    (explained_namedOption ..)

theorem explained_readFields (kind : NodeKind) (bag : Bag) :
    (readFields kind bag).Explained := by
  have option {α : Type} (name : String) (default : α) (read : Scalar.Reader α) :
      (optionAt bag (optionSpellings kind name) default (.ofScalar read)).Explained :=
    explained_optionAt bag _ default (explained_ofScalar read)
  have triple := explained_readTriple bag
  have range : (optionAt bag (spellings "range") none
      (optionalBag "ParameterRange" readRange)).Explained :=
    explained_optionAt bag _ none (explained_optionalBag _ explained_readRange)
  cases kind <;> simp only [readFields] <;>
    repeat first
      | exact option ..
      | exact triple ..
      | exact range
      | apply Explained.fmap
      | apply Explained.seq

theorem faults_ne_nil_of_read {kind : NodeKind} {bag : Bag} {faults : List OptionFault}
    (h : read kind bag = .error faults) : faults ≠ [] := by
  have explained := explained_closed bag ((optionNames kind).map (optionSpellings kind))
    (explained_readFields kind bag)
  unfold read at h
  cases reading : closed bag ((optionNames kind).map (optionSpellings kind))
      (readFields kind bag) with
  | ok options => rw [reading] at h; cases h
  | refused other =>
      rw [reading] at h explained
      cases h
      exact explained

end NodeOptions

end BuildingWorkflow
