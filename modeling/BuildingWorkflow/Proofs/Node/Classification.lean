import BuildingWorkflow.Proofs.Node.Property
import Mathlib.Data.List.Forall2

/-!
Assigned classification references are read back.

A reference is written over the fields of a set that may be there already, and read from it under
several names in turn, passing over names with nothing in them. An empty code is passed over too, so
a code that the set has under a name that is not written comes up in its place. Nothing else that an
element had before has a part in what is read.
-/
namespace BuildingWorkflow

theorem textOr_filter_present (default : String) (value : Option Value) :
    textOr default (value.filter Value.present) = textOr default value := by
  have passes (v : Value) : (v.present && v.truthy) = v.truthy := by
    cases v <;> simp [Value.present, Value.truthy]
  simp only [textOr, Option.filter_filter, passes]

theorem textOr_text (default s : String) :
    textOr default (some (.text s)) = if s = "" then default else s := by
  by_cases blank : s = ""
  · simp [textOr, Option.filter, Value.truthy, blank]
  · simp [textOr, Option.filter, Value.truthy, blank, Value.display]

namespace Element

/-- The code that stays in the set of references, under the one name for codes that is not
written. -/
def keptCode (e : Element) : String :=
  textOr "" (valueIn? e.psets classificationSet "Identification")

variable (e : Element) (c : Classification) (values : OrderedMap Value)

theorem nodup_referenceFields : ((referenceFields c).map Prod.fst).Nodup := by
  simp [referenceFields]

/-- A set with a reference written over its fields. -/
def withReference : OrderedMap Value := values.merge ⟨referenceFields c, nodup_referenceFields c⟩

theorem psets_assignClassification :
    (e.assignClassification c).psets =
      e.psets.update classificationSet .empty (withReference c) := rfl

theorem find?_withReference (name : String) :
    (withReference c values).find? name =
      ((referenceFields c).lookup name).or (values.find? name) :=
  values.find?_merge _ name

theorem firstPresent?_cons_text {name s : String} (names : List String)
    (held : values.find? name = some (.text s)) :
    firstPresent? values (name :: names) =
      if s = "" then firstPresent? values names else some (.text s) := by
  by_cases blank : s = ""
  · simp [firstPresent?, held, Option.filter, Value.present, blank]
  · simp [firstPresent?, held, Option.filter, Value.present, blank]

theorem firstPresent?_singleton (name : String) :
    firstPresent? values [name] = (values.find? name).filter Value.present := by
  rw [firstPresent?, List.findSome?_singleton]

/-- What is read of a set after a reference was written into it. -/
theorem knownReference_withReference (named : c.system ≠ "") :
    knownReference (withReference c values) =
      { c with code :=
          if c.code = "" then textOr "" (values.find? "Identification") else c.code } := by
  have held (name : String) : (withReference c values).find? name =
      ((referenceFields c).lookup name).or (values.find? name) := find?_withReference c values name
  have system : firstPresent? (withReference c values) (systemFields ++ ["Name"]) =
      some (.text c.system) := by
    rw [systemFields, List.cons_append, firstPresent?_cons_text _ _ (held "System"), if_neg named]
  have code : firstPresent? (withReference c values) codeFields =
      if c.code = "" then (values.find? "Identification").filter Value.present
      else some (.text c.code) := by
    rw [codeFields, firstPresent?_cons_text _ _ (held "Code"),
      firstPresent?_cons_text _ _ (held "ItemReference")]
    have kept : (withReference c values).find? "Identification" = values.find? "Identification" :=
      held "Identification"
    rw [firstPresent?_singleton, kept]
    split <;> rfl
  have description : describedBy (withReference c values) = c.description := by
    rw [describedBy, held "Description"]
    exact (textOr_text "" c.description).trans (ite_eq_right_iff.mpr Eq.symm)
  rw [knownReference, system, code, description, textOr_text, if_neg named]
  congr 1
  split
  · exact textOr_filter_present _ _
  · rename_i coded
    rw [textOr_text, if_neg coded]

theorem classification?_assignClassification (named : c.system ≠ "") :
    (e.assignClassification c).classification? =
      some { c with code := if c.code = "" then e.keptCode else c.code } := by
  have found : (e.assignClassification c).psets.find? classificationSet =
      some (withReference c ((e.psets.find? classificationSet).getD .empty)) := by
    rw [psets_assignClassification, OrderedMap.find?_update, if_pos rfl]
  have filled (values : OrderedMap Value) : (withReference c values).isEmpty = false := by
    rw [← Bool.not_eq_true, OrderedMap.isEmpty_iff]
    intro absent
    have held := absent "System"
    rw [find?_withReference] at held
    cases held
  have kept : ((e.psets.find? classificationSet).getD .empty).find? "Identification" =
      valueIn? e.psets classificationSet "Identification" := by
    unfold valueIn?
    cases e.psets.find? classificationSet <;> rfl
  simp only [classification?, List.findSome?_cons, found, Option.filter_some, filled,
    Bool.not_false, if_true, Option.map_some, knownReference_withReference c _ named, kept]
  rfl

/-- Reading after assigning shows the reference, unless another code comes up for an empty one. -/
theorem classifications_readClassification (named : c.system ≠ "") :
    (e.assignClassification c).readClassification.classifications =
      [{ c with code := if c.code = "" then e.keptCode else c.code }] := by
  rw [readClassification, classification?_assignClassification e c named, Option.toList_some]

theorem identity_readClassification :
    (e.assignClassification c).readClassification.identity = e.identity := rfl

end Element

theorem Classification.with_code_eq_iff (c : Classification) (code : String) :
    { c with code := if c.code = "" then code else c.code } = c ↔ c.code ≠ "" ∨ code = "" := by
  obtain ⟨system, own, description⟩ := c
  by_cases blank : own = ""
  · simp [blank]
  · simp [blank]

namespace ClassificationOptions

/-- What a node does to each element. -/
def edit (o : ClassificationOptions) (e : Element) : Element :=
  match o.action with
  | .get => e.readClassification
  | .set => e.assignClassification o.reference

variable {inputs : Inputs} {source : Collection}

theorem evaluate_eq (o : ClassificationOptions) (main : inputs.main = .ok source) :
    o.evaluate inputs = .ok (.elements (source.withElements (source.elements.map o.edit))) := by
  simp only [evaluate, main, bind, Except.bind, pure, Except.pure]
  unfold edit
  cases o.action <;> rfl

theorem systemName_ne_empty {system : String} (named : system ≠ "") : systemName system ≠ "" := by
  unfold systemName
  split
  case h_7 => exact named
  all_goals decide

theorem system_reference (o : ClassificationOptions) :
    o.reference.system = systemName o.system := by
  simp only [reference]

/-- Reading the references after assigning one shows it on every element, with its system and its
description. Its code is shown too, unless it is empty and the set of references of the element
keeps another code: then it shows that one. -/
theorem shows_of_assigned {setter getter : ClassificationOptions} (sets : setter.action = .set)
    (gets : getter.action = .get) (named : setter.system ≠ "") (main : inputs.main = .ok source) :
    ∃ assigned, setter.evaluate inputs = .ok (.elements assigned) ∧
      (∀ e ∈ assigned.elements, e.classifications = [setter.reference]) ∧
      ∀ inputs', inputs'.main = .ok assigned →
        ∃ shown, getter.evaluate inputs' = .ok (.elements shown) ∧
          List.Forall₂ (fun origin e => e.identity = origin.identity ∧
              e.classifications = [{ setter.reference with
                code := if setter.code = "" then origin.keptCode else setter.code }] ∧
              (e.classifications = [setter.reference] ↔
                setter.code ≠ "" ∨ origin.keptCode = ""))
            source.elements shown.elements := by
  have assign (e : Element) : setter.edit e = e.assignClassification setter.reference := by
    rw [edit, sets]
  have read (e : Element) : getter.edit e = e.readClassification := by rw [edit, gets]
  refine ⟨_, setter.evaluate_eq main, ?_, fun inputs' fed => ⟨_, getter.evaluate_eq fed, ?_⟩⟩
  · intro e member
    simp only [Collection.withElements, List.mem_map] at member
    obtain ⟨origin, -, rfl⟩ := member
    rw [assign]
    rfl
  · simp only [Collection.withElements, List.forall₂_map_right_iff, List.forall₂_same]
    intro origin _
    have shown := origin.classifications_readClassification setter.reference
      (setter.system_reference ▸ systemName_ne_empty named)
    rw [read, assign]
    refine ⟨origin.identity_readClassification _, shown, ?_⟩
    rw [shown, List.singleton_inj]
    exact setter.reference.with_code_eq_iff origin.keptCode

/-- A wall with a reference that keeps its code under another name than the one that is written. -/
def codedWall : Element :=
  { PropertyOptions.measuredWall with
    psets := .ofList [(classificationSet, .ofList [("System", .text "NL-SfB"),
      ("Identification", .text "21.1")])] }

def assigning (code : String) : ClassificationOptions := ⟨"uniclass", .set, code⟩
def reading : ClassificationOptions := ⟨"", .get, ""⟩

theorem shows_of_assigned_coded : ∃ assigned shown,
    (assigning "Ss_20").evaluate (.feeding ⟨[codedWall], none⟩) = .ok (.elements assigned) ∧
    reading.evaluate (.feeding assigned) = .ok (.elements shown) ∧
    ∃ e, shown.elements = [e] ∧
      e.classifications = [⟨"Uniclass 2015", "Ss_20", "Uniclass 2015 classification Ss_20"⟩] := by
  have sets : (assigning "Ss_20").action = .set := rfl
  have gets : reading.action = .get := rfl
  obtain ⟨assigned, wrote, -, further⟩ :=
    shows_of_assigned sets gets (by decide) (Inputs.main_feeding ⟨[codedWall], none⟩)
  obtain ⟨shown, read, pairs⟩ := further _ (Inputs.main_feeding assigned)
  obtain ⟨e, rest, ⟨-, -, exact_iff⟩, none, elements⟩ := List.forall₂_cons_left_iff.mp pairs
  obtain rfl := List.forall₂_nil_left_iff.mp none
  have reference : (assigning "Ss_20").reference =
      ⟨"Uniclass 2015", "Ss_20", "Uniclass 2015 classification Ss_20"⟩ := by decide +kernel
  refine ⟨assigned, shown, wrote, read, e, elements, ?_⟩
  rw [← reference]
  exact exact_iff.mpr (.inl (by decide))

/-- The empty code is assigned, and the code of the earlier reference is read. -/
theorem shows_of_assigned_uncoded : ∃ assigned shown,
    (assigning "").evaluate (.feeding ⟨[codedWall], none⟩) = .ok (.elements assigned) ∧
    reading.evaluate (.feeding assigned) = .ok (.elements shown) ∧
    assigned.elements.map Element.classifications =
      [[⟨"Uniclass 2015", "", "Uniclass 2015 classification "⟩]] ∧
    shown.elements.map Element.classifications =
      [[⟨"Uniclass 2015", "21.1", "Uniclass 2015 classification "⟩]] := by
  refine ⟨_, _, evaluate_eq _ (Inputs.main_feeding _), evaluate_eq _ (Inputs.main_feeding _),
    ?_, ?_⟩
  · decide +kernel
  · decide +kernel

end ClassificationOptions

end BuildingWorkflow
