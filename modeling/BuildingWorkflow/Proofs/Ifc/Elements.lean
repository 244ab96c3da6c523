import BuildingWorkflow.Proofs.Element.Identifier
import BuildingWorkflow.Proofs.Ifc.Loading
import BuildingWorkflow.Proofs.Text.Tally

/-!
The elements of a file.

The products of a file are gone through one by one. Each of them is passed over, fails, or becomes
one element, and none of them has a say in what becomes of the others. Products of distinct numbers
become elements of distinct identifiers, and the counts of a model are those of its elements.
-/
namespace BuildingWorkflow

/-! ## Counts -/

theorem countNames_eq (names : List String) : countNames names = (tally names).map Int.ofNat := by
  induction names using List.reverseRecOn with
  | nil => rfl
  | append_singleton names name ih =>
      have step : countNames (names ++ [name]) = (countNames names).update name 0 (· + 1) := by
        rw [countNames, List.foldl_concat, ← countNames]
      rw [step, ih, tally_append_singleton]
      exact OrderedMap.map_update (tally names) name 0 rfl

/-- Counts of names: every name once, in the order in which they first occur. -/
structure Counts (counts : OrderedMap Int) (names : List String) : Prop where
  keys : counts.keys = names.eraseDups
  find? : ∀ name ∈ names, counts.find? name = some (names.count name : Int)
  sum : counts.values.sum = names.length

theorem counts_countNames (names : List String) : Counts (countNames names) names := by
  have values : (countNames names).values = (tally names).values.map Int.ofNat := by
    rw [countNames_eq]
    simp [OrderedMap.values, OrderedMap.map, OrderedMap.mapEntries]
  refine ⟨?_, fun name listed => ?_, ?_⟩
  · rw [countNames_eq, OrderedMap.keys_map, keys_tally]
  · rw [countNames_eq, OrderedMap.find?_map, find?_tally, if_pos listed]
    rfl
  · rw [values, ← sum_values_tally names]
    exact (map_list_sum (Nat.castAddMonoidHom Int) (tally names).values).symm

/-! ## Elements -/

theorem Product.id_of_toElement {p : Product} {e : Element} (becomes : p.toElement = .ok e) :
    e.id = elementId p.id p.entity.type := by
  obtain ⟨own, -, done⟩ := bind_eq_ok becomes
  cases done
  rfl

/-- The elements that products become, in the same order. -/
inductive Loads : List Product → List Element → Prop
  | nil : Loads [] []
  | skipped {p : Product} {ps : List Product} {es : List Element} (without : p.isLoaded = false)
      (rest : Loads ps es) : Loads (p :: ps) es
  | failed {p : Product} {ps : List Product} {es : List Element} {fault : Fault}
      (fails : p.toElement = .error fault) (rest : Loads ps es) : Loads (p :: ps) es
  | loaded {p : Product} {ps : List Product} {e : Element} {es : List Element}
      (carries : p.isLoaded = true) (becomes : p.toElement = .ok e) (rest : Loads ps es) :
      Loads (p :: ps) (e :: es)

namespace Loads

variable {ps : List Product} {es es' : List Element}

theorem exists_loads (ps : List Product) : ∃ es, Loads ps es := by
  induction ps with
  | nil => exact ⟨_, .nil⟩
  | cons p ps ih =>
      obtain ⟨es, rest⟩ := ih
      cases carries : p.isLoaded with
      | false => exact ⟨_, .skipped carries rest⟩
      | true =>
          cases becomes : p.toElement with
          | error fault => exact ⟨_, .failed becomes rest⟩
          | ok e => exact ⟨_, .loaded carries becomes rest⟩

theorem eq_elements (loads : Loads ps es) :
    es = (ps.filter Product.isLoaded).filterMap fun p => p.toElement.toOption := by
  induction loads with
  | nil => rfl
  | skipped without _ ih => rw [ih, List.filter_cons_of_neg (by simp [without])]
  | failed fails _ ih =>
      rw [ih, List.filter_cons]
      split
      · rw [List.filterMap_cons, fails]
        rfl
      · rfl
  | loaded carries becomes _ ih =>
      rw [ih, List.filter_cons_of_pos carries, List.filterMap_cons, becomes]
      rfl

theorem iff_eq_elements : Loads ps es ↔
    es = (ps.filter Product.isLoaded).filterMap fun p => p.toElement.toOption := by
  refine ⟨eq_elements, fun same => ?_⟩
  obtain ⟨es', loads⟩ := exists_loads ps
  rwa [same, ← loads.eq_elements]

/-- The numbers that the identifiers begin with are those of the products that became elements. -/
theorem numbers (loads : Loads ps es) :
    ((es.map Element.id).map fun id => leadingInt id.toList).Sublist (ps.map Product.id) := by
  induction loads with
  | nil => exact .slnil
  | skipped _ _ ih => exact ih.cons _
  | failed _ _ ih => exact ih.cons _
  | loaded _ becomes _ ih =>
      rw [List.map_cons, List.map_cons, Product.id_of_toElement becomes, leadingInt_elementId]
      exact ih.cons_cons _

theorem nodup_ids (loads : Loads ps es) (distinct : (ps.map Product.id).Nodup) :
    (es.map Element.id).Nodup :=
  .of_map _ (loads.numbers.nodup distinct)

end Loads

/-! ## Models -/

section Model

variable {path : String} {file : IfcFile} {name : Option String} {m : Model}

theorem loadModel_eq_ok_iff : loadModel path (.ok file) name = .ok m ↔
    file.schema ∈ IfcFile.supportedSchemas ∧ ∃ project, file.projectInfo = .ok project ∧
      m = .create ((name.filter (· != "")).getD (Path.fileName path)) (Path.fileName path)
        (.ofText file.schema) file.elements .empty (some path) project := by
  by_cases listed : file.schema ∈ IfcFile.supportedSchemas
  · have supported := List.contains_iff_mem.mpr listed
    cases project : file.projectInfo with
    | error fault => simp [loadModel, listed, project, bind, Except.bind]
    | ok info =>
        simp only [loadModel, supported, project, listed, true_and, Except.ok.injEq,
          exists_eq_left']
        exact ⟨fun same => (Except.ok.inj same).symm, fun same => congrArg Except.ok same.symm⟩
  · have other : IfcFile.supportedSchemas.contains file.schema = false := by simp [listed]
    simp only [listed, false_and, iff_false, loadModel, other]
    exact nofun

theorem elements_of_loadModel (loaded : loadModel path (.ok file) name = .ok m) :
    m.elements = file.elements ∧ m.counts = countNames (m.elements.map Element.type) := by
  obtain ⟨-, _, -, rfl⟩ := loadModel_eq_ok_iff.mp loaded
  exact ⟨rfl, rfl⟩

end Model

/-- A file is loaded just when its schema is supported and its project has a header. The elements of
the model are then those that the products become, no matter which of the others are passed over or
fail. Where the numbers of the products are distinct, so are the identifiers of the elements; an
identifier tells the number whatever the class. The counts are those of the classes. -/
theorem loadModel_elements (path : String) (file : IfcFile) (name : Option String)
    (distinct : (file.products.map Product.id).Nodup) :
    ((∃ m, loadModel path (.ok file) name = .ok m) ↔
      file.schema ∈ IfcFile.supportedSchemas ∧ ∃ project, file.projectInfo = .ok project) ∧
    (∀ m, loadModel path (.ok file) name = .ok m →
      (∀ es, Loads file.products es ↔ es = m.elements) ∧
      (m.elements.map Element.id).Nodup ∧
      Counts m.counts (m.elements.map Element.type)) ∧
    ∀ n n' type type', elementId n type = elementId n' type' → n = n' := by
  refine ⟨⟨?_, ?_⟩, fun m loaded => ?_, fun n n' type type' same => (elementId_eq_iff.mp same).1⟩
  · rintro ⟨m, loaded⟩
    obtain ⟨supported, project, header, -⟩ := loadModel_eq_ok_iff.mp loaded
    exact ⟨supported, project, header⟩
  · rintro ⟨supported, project, header⟩
    exact ⟨_, loadModel_eq_ok_iff.mpr ⟨supported, project, header, rfl⟩⟩
  · obtain ⟨elements, counts⟩ := elements_of_loadModel loaded
    have loads : Loads file.products m.elements := Loads.iff_eq_elements.mpr elements
    refine ⟨fun es => ?_, loads.nodup_ids distinct, counts ▸ counts_countNames _⟩
    rw [elements]
    exact Loads.iff_eq_elements

/-- Two walls, and between them a grid and a slab that has no name. -/
def IfcFile.yard : IfcFile :=
  let wall := Product.wallWith "FireRating" (.text "F90")
  let unnamed : Product :=
    { wall with id := 3, entity := .mk "IfcSlab" [] [("GlobalId", .value (.text "s"))] }
  ⟨"IFC4", [wall, { wall with id := 2, entity := .mk "IfcGrid" [] wall.entity.attributes }, unnamed,
    { wall with id := 4 }], []⟩

theorem loadModel_elements_yard : ∃ m, loadModel "yard.ifc" (.ok .yard) none = .ok m ∧
    m.elements.map Element.expressId = [1, 4] ∧ (m.elements.map Element.id).Nodup ∧
    Counts m.counts ["IfcWall", "IfcWall"] := by
  obtain ⟨opens, holds, -⟩ := loadModel_elements "yard.ifc" .yard none (by decide)
  obtain ⟨m, loaded⟩ := opens.mpr ⟨by decide, none, rfl⟩
  obtain ⟨loads, nodup, counts⟩ := holds m loaded
  have elements := (loads _).mp
    (.loaded rfl rfl (.skipped rfl (.failed rfl (.loaded rfl rfl .nil))))
  rw [← elements] at nodup counts
  exact ⟨m, loaded, elements ▸ rfl, elements ▸ nodup, counts⟩

end BuildingWorkflow
