import BuildingWorkflow.Proofs.Ifc.Loading

/-!
What an element says of its product, and what is promoted beside it.

The flat map of an element begins with what the product says of itself: its identifier, its name and
the like. Values of sets are promoted into the same map. A quantity is promoted under names that say
how large something is, and only where nothing stands; the properties of the common set are promoted
under whatever names they have, over what stands there.
-/
namespace BuildingWorkflow

/-! ## What a product says of itself -/

inductive Trait
  | globalId
  | name
  | description
  | objectType
  | tag
  | storey
  | material
deriving DecidableEq

namespace Trait

/-- The traits in the order of the flat map. -/
def all : List Trait := [globalId, name, description, objectType, tag, storey, material]

def key : Trait → String
  | globalId => "GlobalId"
  | name => "Name"
  | description => "Description"
  | objectType => "ObjectType"
  | tag => "Tag"
  | storey => "BuildingStorey"
  | material => "Material"

/-- The traits that are attributes which a product need not have. -/
def remarks : List Trait := [description, objectType, tag]

theorem mem_all (t : Trait) : t ∈ all := by cases t <;> decide

theorem key_injective {t u : Trait} (same : t.key = u.key) : t = u := by
  revert same
  cases t <;> cases u <;> decide

theorem nodup_keys : (all.map key).Nodup := by decide

/-- What is said of some traits, as entries. -/
def entries (said : Trait → Option Value) (traits : List Trait) : List (String × Value) :=
  traits.flatMap fun t => ((said t).map (t.key, ·)).toList

variable (said : Trait → Option Value)

theorem lookup_entries (traits : List Trait) (t : Trait) :
    (entries said traits).lookup t.key = if t ∈ traits then said t else none := by
  induction traits with
  | nil => rfl
  | cons u rest ih =>
      have here : ((said u).map (u.key, ·)).toList.lookup t.key =
          if t = u then said u else none := by
        by_cases same : t = u
        · cases said u <;> simp [same]
        · have apart : t.key ≠ u.key := fun e => same (key_injective e)
          cases said u <;> simp [same, lookup_cons_ite, apart]
      rw [entries, List.flatMap_cons, List.lookup_append, here, ← entries, ih]
      by_cases same : t = u
      · subst same
        cases said t <;> simp
      · simp [same]

theorem sublist_keys (traits : List Trait) :
    ((entries said traits).map Prod.fst).Sublist (traits.map key) := by
  induction traits with
  | nil => exact .slnil
  | cons u rest ih =>
      rw [entries, List.flatMap_cons, List.map_append, ← entries, List.map_cons]
      cases said u with
      | none => exact ih.cons _
      | some v => exact ih.cons_cons _

theorem find?_entries (t : Trait) :
    (OrderedMap.ofList (entries said all)).find? t.key = said t := by
  rw [OrderedMap.find?_ofList ((sublist_keys said all).nodup nodup_keys), lookup_entries,
    if_pos (mem_all t)]

end Trait

namespace Product

/-- What a product declares of one of its traits, if anything. -/
inductive Declares (p : Product) : Trait → Option Value → Prop
  | globalId {a : Attribute} (held : p.entity.attribute? "GlobalId" = some a) :
      Declares p .globalId (some a.plain)
  | named {a : Attribute} (held : p.entity.attribute? "Name" = some a) (filled : a.truthy = true) :
      Declares p .name (some a.plain)
  | unnamed {a : Attribute} (held : p.entity.attribute? "Name" = some a)
      (empty : a.truthy = false) : Declares p .name (some (.text ("Unnamed " ++ p.entity.type)))
  | remarked {t : Trait} {a : Attribute} (listed : t ∈ Trait.remarks)
      (held : p.entity.attribute? t.key = some a) (present : a.plain.isNull = false) :
      Declares p t (some a.plain)
  | unremarked {t : Trait} (listed : t ∈ Trait.remarks)
      (absent : ∀ a, p.entity.attribute? t.key = some a → a.plain.isNull = true) : Declares p t none
  | housed {c : Entity} {a : Attribute} (inside : p.container = some c)
      (isStorey : c.isA "IfcBuildingStorey" = true) (held : c.attribute? "Name" = some a) :
      Declares p .storey (some a.plain)
  | unhoused (outside : ∀ c, p.container = some c → c.isA "IfcBuildingStorey" = false) :
      Declares p .storey none
  | made {m : Entity} {a : Attribute} (isOf : p.material = some m) (named : materialName m = .ok a)
      (filled : a.truthy = true) : Declares p .material (some a.plain)
  | nameless {m : Entity} {a : Attribute} (isOf : p.material = some m)
      (named : materialName m = .ok a) (empty : a.truthy = false) : Declares p .material none
  | unmade (unknown : p.material = none) : Declares p .material none

theorem required_eq_ok_iff {e : Entity} {name : String} {a : Attribute} :
    e.required name = .ok a ↔ e.attribute? name = some a := by
  unfold Entity.required
  cases e.attribute? name <;> simp

variable {p : Product} {t : Trait} {own : Option Value}

theorem Declares.required (declared : p.Declares .globalId own) :
    ∃ a, p.entity.required "GlobalId" = .ok a ∧ own = some a.plain := by
  cases declared with
  | globalId held => exact ⟨_, required_eq_ok_iff.mpr held, rfl⟩
  | remarked listed | unremarked listed => exact absurd listed (by decide)

theorem Declares.required_name (declared : p.Declares .name own) :
    ∃ a, p.entity.required "Name" = .ok a ∧
      own = some (if a.truthy then a.plain else .text ("Unnamed " ++ p.entity.type)) := by
  cases declared with
  | named held filled => exact ⟨_, required_eq_ok_iff.mpr held, by rw [if_pos filled]⟩
  | unnamed held empty => exact ⟨_, required_eq_ok_iff.mpr held, by simp [empty]⟩
  | remarked listed | unremarked listed => exact absurd listed (by decide)

theorem Declares.optionalAttribute (declared : p.Declares t own) (listed : t ∈ Trait.remarks) :
    p.optionalAttribute t.key = (own.map (t.key, ·)).toList := by
  cases declared with
  | remarked _ held present => simp [Product.optionalAttribute, held, present]
  | unremarked _ absent =>
      cases held : p.entity.attribute? t.key with
      | none => simp [Product.optionalAttribute, held]
      | some a => simp [Product.optionalAttribute, held, absent a held]
  | _ => exact absurd listed (by decide)

theorem exists_declared_remark (listed : t ∈ Trait.remarks) : ∃ own, p.Declares t own := by
  cases held : p.entity.attribute? t.key with
  | none => exact ⟨none, .unremarked listed (by simp [held])⟩
  | some a =>
      cases null : a.plain.isNull with
      | false => exact ⟨_, .remarked listed held null⟩
      | true => exact ⟨none, .unremarked listed (by simp [held, null])⟩

theorem Declares.storeyEntry (declared : p.Declares .storey own) :
    p.storeyEntry = .ok (own.map (Trait.storey.key, ·)).toList := by
  cases declared with
  | remarked listed | unremarked listed => exact absurd listed (by decide)
  | housed inside isStorey held =>
      simp only [Product.storeyEntry, inside, isStorey, if_true, required_eq_ok_iff.mpr held]
      rfl
  | unhoused outside =>
      cases inside : p.container with
      | none => simp [Product.storeyEntry, inside]
      | some c => simp [Product.storeyEntry, inside, outside c inside]

theorem exists_declared_storey {entries : List (String × Value)}
    (told : p.storeyEntry = .ok entries) : ∃ own, p.Declares .storey own := by
  cases inside : p.container with
  | none => exact ⟨none, .unhoused (by simp [inside])⟩
  | some c =>
      cases isStorey : c.isA "IfcBuildingStorey" with
      | false => exact ⟨none, .unhoused (by simp [inside, isStorey])⟩
      | true =>
          simp only [Product.storeyEntry, inside, isStorey, if_true] at told
          obtain ⟨a, held, -⟩ := bind_eq_ok told
          exact ⟨_, .housed inside isStorey (required_eq_ok_iff.mp held)⟩

theorem Declares.materialEntry (declared : p.Declares .material own) :
    p.materialEntry = .ok (own.map (Trait.material.key, ·)).toList := by
  cases declared with
  | remarked listed | unremarked listed => exact absurd listed (by decide)
  | made isOf named filled =>
      simp only [Product.materialEntry, isOf, named, bind, Except.bind, filled, if_true]
      rfl
  | nameless isOf named empty =>
      simp only [Product.materialEntry, isOf, named, bind, Except.bind, empty]
      rfl
  | unmade unknown => simp [Product.materialEntry, unknown]

theorem exists_declared_material {entries : List (String × Value)}
    (told : p.materialEntry = .ok entries) : ∃ own, p.Declares .material own := by
  cases isOf : p.material with
  | none => exact ⟨none, .unmade isOf⟩
  | some m =>
      simp only [Product.materialEntry, isOf] at told
      obtain ⟨a, named, -⟩ := bind_eq_ok told
      cases filled : a.truthy with
      | false => exact ⟨none, .nameless isOf named filled⟩
      | true => exact ⟨_, .made isOf named filled⟩

/-- The own properties of a product are what it says of its traits. -/
theorem ownProperties_of_declared {said : Trait → Option Value}
    (declared : ∀ t, p.Declares t (said t)) :
    p.ownProperties = .ok (.ofList (Trait.entries said Trait.all)) := by
  obtain ⟨id, identified, isId⟩ := (declared .globalId).required
  obtain ⟨name, named, isName⟩ := (declared .name).required_name
  have remarked : ["Description", "ObjectType", "Tag"].flatMap p.optionalAttribute =
      Trait.entries said Trait.remarks := by
    change (Trait.remarks.map Trait.key).flatMap p.optionalAttribute = _
    rw [List.flatMap_map]
    exact List.flatMap_congr fun t listed => (declared t).optionalAttribute listed
  rw [ownProperties, bind_of_eq_ok identified, bind_of_eq_ok named,
    bind_of_eq_ok (declared .storey).storeyEntry, bind_of_eq_ok (declared .material).materialEntry,
    remarked]
  change Except.ok _ = Except.ok _
  simp [Trait.entries, Trait.all, Trait.remarks, isId, isName, Trait.key]

theorem exists_declared {properties : OrderedMap Value} (told : p.ownProperties = .ok properties)
    (t : Trait) : ∃ own, p.Declares t own := by
  obtain ⟨a, identified, told⟩ := bind_eq_ok told
  obtain ⟨b, named, told⟩ := bind_eq_ok told
  obtain ⟨_, housed, told⟩ := bind_eq_ok told
  obtain ⟨_, made, -⟩ := bind_eq_ok told
  cases t with
  | globalId => exact ⟨_, .globalId (required_eq_ok_iff.mp identified)⟩
  | name =>
      cases filled : b.truthy with
      | false => exact ⟨_, .unnamed (required_eq_ok_iff.mp named) filled⟩
      | true => exact ⟨_, .named (required_eq_ok_iff.mp named) filled⟩
  | description | objectType | tag => exact exists_declared_remark (by decide)
  | storey => exact exists_declared_storey housed
  | material => exact exists_declared_material made

end Product

/-! ## Promotion -/

/-- Whether a property of a set is promoted. -/
def promotes (set name : String) : Bool :=
  promotedSets.contains set || promotedProperties.contains name

theorem promoteProperties_eq (properties : OrderedMap Value) (psets : PropertySets) :
    promoteProperties properties psets = psets.entries.foldl (fun properties entry =>
      properties.merge (entry.2.filterKeys (promotes entry.1))) properties := by
  unfold promoteProperties OrderedMap.merge OrderedMap.filterKeys OrderedMap.filter
  congr 1
  funext properties entry
  rw [List.foldl_filter]
  rfl

/-- A property that is not promoted from every set is only promoted from the common one. -/
theorem find?_promoteProperties (properties : OrderedMap Value) (psets : PropertySets)
    {name : String} (special : name ∉ promotedProperties) :
    (promoteProperties properties psets).find? name =
      (valueIn? psets "Pset_WallCommon" name).or (properties.find? name) := by
  rw [promoteProperties_eq, valueIn?]
  obtain ⟨entries, nodup⟩ := psets
  change _ = ((entries.lookup "Pset_WallCommon").bind _).or _
  dsimp only
  induction entries generalizing properties with
  | nil => rfl
  | cons entry rest ih =>
      obtain ⟨fresh, nodup⟩ := List.nodup_cons.mp nodup
      rw [List.foldl_cons, ih _ nodup, OrderedMap.find?_merge, OrderedMap.find?_filterKeys,
        lookup_cons_ite]
      by_cases common : entry.1 = "Pset_WallCommon"
      · have absent : rest.lookup "Pset_WallCommon" = none :=
          ((OrderedMap.mk rest nodup).find?_eq_none_iff _).mpr (common ▸ fresh)
        simp [promotes, promotedSets, common, absent]
      · simp [promotes, promotedSets, common, Ne.symm common, special]

theorem find?_promoteQuantities (properties : OrderedMap Value) (qtos : PropertySets)
    {name : String} (other : name ∉ promotedQuantities) :
    (promoteQuantities properties qtos).find? name = properties.find? name := by
  unfold promoteQuantities
  refine List.foldlRecOn (motive := fun m : OrderedMap Value => m.find? name = _) _ _ rfl
    fun m same set _ => ?_
  refine List.foldlRecOn (motive := fun m : OrderedMap Value => m.find? name = _) _ _ same
    fun m same entry _ => ?_
  obtain ⟨written, v⟩ := entry
  dsimp only
  split
  · rename_i listed
    have apart : name ≠ written := fun e => other (e ▸ List.contains_iff_mem.mp listed)
    rw [OrderedMap.insertNew]
    split
    · exact same
    · rw [OrderedMap.find?_insert, if_neg apart, same]
  · exact same

namespace Product

variable {p : Product} {e : Element} {t : Trait} {own : Option Value}

theorem find?_ownProperties {properties : OrderedMap Value}
    (told : p.ownProperties = .ok properties) (declared : p.Declares t own) :
    properties.find? t.key = own := by
  choose said others using exists_declared told
  have all : ∀ u, p.Declares u (Function.update said t own u) := by
    intro u
    by_cases same : u = t
    · subst same
      rwa [Function.update_self]
    · rw [Function.update_of_ne same]
      exact others u
  cases told.symm.trans (ownProperties_of_declared all)
  rw [Trait.find?_entries, Function.update_self]

/-- What a product declares of itself stands in its element, unless the common set has an entry of
that name. -/
theorem find?_trait (loaded : p.toElement = .ok e) (declared : p.Declares t own) :
    e.properties.find? t.key = (valueIn? e.psets "Pset_WallCommon" t.key).or own := by
  have special : t.key ∉ promotedProperties := by cases t <;> decide
  have other : t.key ∉ promotedQuantities := by cases t <;> decide
  obtain ⟨properties, told, done⟩ := bind_eq_ok loaded
  cases done
  change (promoteQuantities (promoteProperties properties (plainSets p.psets)) _).find? t.key = _
  rw [find?_promoteQuantities _ _ other, find?_promoteProperties _ _ special,
    find?_ownProperties told declared]
  rfl

/-- A product has an element just when it declares something, or that there is nothing, of each of
its traits. The flat map of the element has what the common property set has under the name of a
trait; where that has nothing, it has what the product declares. -/
theorem traits_of_toElement (p : Product) :
    ((∃ e, p.toElement = .ok e) ↔ ∀ t, ∃! own, p.Declares t own) ∧
    ∀ e, p.toElement = .ok e → ∀ t own, p.Declares t own →
      e.properties.find? t.key = (valueIn? e.psets "Pset_WallCommon" t.key).or own := by
  refine ⟨⟨?_, fun declared => ?_⟩, fun e loaded t own => find?_trait loaded⟩
  · rintro ⟨e, loaded⟩ t
    obtain ⟨_, told, -⟩ := bind_eq_ok loaded
    obtain ⟨own, declared⟩ := exists_declared told t
    exact ⟨own, declared, fun other declared' =>
      (find?_ownProperties told declared').symm.trans (find?_ownProperties told declared)⟩
  · choose said declared _ using declared
    exact ⟨_, by rw [toElement, bind_of_eq_ok (ownProperties_of_declared declared)]; rfl⟩

/-- A wall whose common property set has an identifier among its properties. -/
def wallMarked : Product :=
  { wallWith "FireRating" .null with
    psets := .ofList [("Pset_WallCommon", .map [(setNumber, .int 11), ("GlobalId", .text "h")])] }

/-- The element of the marked wall goes by the identifier in the set, not by that of the wall. -/
theorem traits_of_toElement_marked :
    wallMarked.Declares .globalId (some (.text "g")) ∧
    wallMarked.toElement.toOption.bind (·.properties.find? "GlobalId") = some (.text "h") :=
  ⟨.globalId (a := .value (.text "g")) rfl, rfl⟩

end Product

end BuildingWorkflow
