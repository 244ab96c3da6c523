import BuildingWorkflow.Element.Lookup

/-!
Classification references in the property sets of an element.
-/
namespace BuildingWorkflow

/-- The set into which references are written. -/
def classificationSet : String := "Pset_ClassificationReference"

/-- The name of a value, or a default when it is missing or says nothing. -/
def textOr (default : String) (value : Option Value) : String :=
  match value.filter Value.truthy with
  | some v => v.display
  | none => default

def systemFields : List String := ["System", "Source"]

def codeFields : List String := ["Code", "ItemReference", "Identification"]

def describedBy (values : OrderedMap Value) : String := textOr "" (values.find? "Description")

/-- The reference in a set that is known to hold one. -/
def knownReference (values : OrderedMap Value) : Classification where
  system := textOr "Unknown" (Element.firstPresent? values (systemFields ++ ["Name"]))
  code := textOr "" (Element.firstPresent? values codeFields)
  description := describedBy values

/-- The reference in any other set: it needs both a system and a code. -/
def likelyReference? (values : OrderedMap Value) : Option Classification :=
  match Element.firstPresent? values systemFields, Element.firstPresent? values codeFields with
  | some system, some code => some ⟨system.display, code.display, describedBy values⟩
  | _, _ => none

/-- The classification reference of an element: well-known sets that are not empty first, then any
set that looks like one. -/
def Element.classification? (e : Element) : Option Classification :=
  let known := [classificationSet, "IfcClassificationReference", "Classification"]
  (known.findSome? fun set =>
    ((e.psets.find? set).filter (!·.isEmpty)).map knownReference).or
    (e.psets.values.findSome? likelyReference?)

/-- The full name of a classification system, when it is one of the usual ones. -/
def systemName (system : String) : String :=
  match lower (trim system) with
  | "uniclass" => "Uniclass 2015"
  | "uniformat" => "Uniformat II"
  | "masterformat" => "MasterFormat 2016"
  | "omniclass" => "OmniClass"
  | "cobie" => "COBie"
  | "custom" => "Custom Classification"
  | _ => system

end BuildingWorkflow
