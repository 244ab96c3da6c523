import BuildingWorkflow.Proofs.Graph.Reordering

/-!
What a submitted node says.

A node is read from four of its fields: its identifier, its kind, its options and its label. The
kind and the options go by two names each, and a canvas record lends its node the options and the
label. A record lends options even when it has none, and they come before those of `properties`.
-/
namespace BuildingWorkflow

section Scalars

variable {v : Value}

theorem ofScalar_text_eq_ok_iff {s : String} :
    Reading.ofScalar Scalar.text v = .ok s ↔ v = .text s := by
  cases v <;> simp [Reading.ofScalar, Scalar.text]

theorem ofScalar_nonemptyText_eq_ok_iff {s : String} :
    Reading.ofScalar Scalar.nonemptyText v = .ok s ↔ v = .text s ∧ s ≠ "" := by
  by_cases empty : v = .text ""
  · subst empty
    simp +contextual [Reading.ofScalar, Scalar.nonemptyText, eq_comm]
  · have plain : Scalar.nonemptyText v = Scalar.text v := by
      unfold Scalar.nonemptyText
      split
      · exact absurd rfl empty
      · rfl
    rw [Reading.ofScalar, plain, ← Reading.ofScalar, ofScalar_text_eq_ok_iff]
    refine ⟨fun read => ⟨read, ?_⟩, And.left⟩
    rintro rfl
    exact empty read

theorem ofScalar_optionalText_eq_ok_iff {label : Option String} :
    Reading.ofScalar (Scalar.optional Scalar.text) v = .ok label ↔ v = label.elim .null .text := by
  cases v <;> cases label <;> simp [Reading.ofScalar, Scalar.optional, Scalar.text, Except.map]

theorem readMapping_eq_ok_iff {bag : Bag} : readMapping v = .ok bag ↔ v = .map bag := by
  cases v <;> simp [readMapping]

end Scalars

/-! ## Nodes -/

/-- The canvas record of a node. -/
def Bag.canvas? (bag : Bag) : Option Bag :=
  match bag.lookup dataField with
  | some (.map inner) => some inner
  | _ => none

/-- The label of a canvas record, unless it is null. -/
def Bag.shownLabel? (inner : Bag) : Option Value := (inner.lookup "label").filter fun v => !v.isNull

/-- What a canvas record lends to a field of its node. -/
def Bag.lent? (inner : Bag) (name : String) : Option Value :=
  if name = "config" then some (canvasOptions inner)
  else if name = "label" then inner.shownLabel?
  else none

theorem Bag.canvas?_eq_some_iff {bag inner : Bag} :
    bag.canvas? = some inner ↔ bag.lookup dataField = some (.map inner) := by
  unfold canvas?
  split
  · next held => simp [held]
  · next other => exact ⟨nofun, fun held => absurd held (other inner)⟩

theorem Bag.lookup_withDefault (bag : Bag) (name other : String) (v : Value) :
    (bag.withDefault name v).lookup other =
      (bag.lookup other).or (if other = name then some v else none) := by
  rw [withDefault]
  split
  · next known =>
    by_cases same : other = name
    · rw [same, Option.or_of_isSome known]
    · rw [if_neg same, Option.or_none]
  · rw [List.lookup_append, lookup_cons_ite, List.lookup_nil]

theorem liftData_of_canvas {bag inner : Bag} (record : bag.canvas? = some inner) :
    liftData bag =
      let lifted := Bag.withDefault (bag.filter (·.1 != dataField)) "config" (canvasOptions inner)
      inner.shownLabel?.elim lifted (lifted.withDefault "label") := by
  simp only [liftData, Bag.canvas?_eq_some_iff.mp record, Bag.shownLabel?]
  cases inner.lookup "label" with
  | none => rfl
  | some label => cases label <;> rfl

theorem liftData_of_flat {bag : Bag} (flat : bag.canvas? = none) : liftData bag = bag := by
  unfold liftData
  split
  · next inner held => cases flat.symm.trans (Bag.canvas?_eq_some_iff.mpr held)
  · rfl

theorem lookup_liftData (bag : Bag) {name : String} (own : name ≠ dataField) :
    (liftData bag).lookup name = (bag.lookup name).or (bag.canvas?.bind (·.lent? name)) := by
  cases record : bag.canvas? with
  | none => rw [liftData_of_flat record, Option.bind_none, Option.or_none]
  | some inner =>
      have rest : (bag.filter (·.1 != dataField)).lookup name = bag.lookup name := by
        rw [lookup_filterKeys (· != dataField), if_pos (bne_iff_ne.mpr own)]
      rw [liftData_of_canvas record, Option.bind_some, Bag.lent?]
      cases inner.shownLabel? with
      | none =>
          rw [Option.elim_none, Bag.lookup_withDefault, rest, ite_self]
      | some label =>
          rw [Option.elim_some, Bag.lookup_withDefault, Bag.lookup_withDefault, rest, Option.or_assoc]
          by_cases config : name = "config"
          · rw [if_pos config, if_pos config, Option.some_or]
          · rw [if_neg config, if_neg config, Option.none_or]

theorem lookup_liftData_unlent (bag : Bag) {name : String} (own : name ≠ dataField)
    (unlent : ∀ inner, Bag.lent? inner name = none) :
    (liftData bag).lookup name = bag.lookup name := by
  rw [lookup_liftData bag own]
  cases bag.canvas? with
  | none => exact Option.or_none
  | some inner => rw [Option.bind_some, unlent, Option.or_none]

/-- The options that a node is given: those of its `config`, then those of its canvas record, and
only then those of its `properties`. -/
def Bag.givenOptions (bag : Bag) : Value :=
  ((bag.lookup "config").or ((bag.canvas?.map canvasOptions).or (bag.lookup "properties"))).getD
    (.map [])

/-- The label that a node is given; null if there is none. -/
def Bag.givenLabel (bag : Bag) : Value :=
  ((bag.lookup "label").or (bag.canvas?.bind (·.shownLabel?))).getD .null

/-- What the record of a node says, apart from its options. -/
structure Bag.Names (bag : Bag) (id kind : String) (label : Option String) : Prop where
  identified : bag.lookup "id" = some (.text id) ∧ id ≠ ""
  kind : bag.value? ["kind", "type"] = some (.text kind)
  label : bag.givenLabel = label.elim .null .text

/-- What is read of the record of a node. -/
theorem readNode_eq_ok_iff {bag : Bag} {node : DraftNode} :
    readNode (.map bag) = .ok node ↔
      Bag.Names bag node.id node.kind node.label ∧ Bag.givenOptions bag = .map node.options := by
  have id : Bag.value? (liftData bag) ["id"] = bag.lookup "id" := by
    rw [Bag.value?_cons, lookup_liftData_unlent bag (by decide) fun _ => rfl]
    exact Option.or_none
  have kind : Bag.value? (liftData bag) ["kind", "type"] = bag.value? ["kind", "type"] := by
    simp only [Bag.value?_cons]
    rw [lookup_liftData_unlent bag (by decide) fun _ => rfl,
      lookup_liftData_unlent bag (by decide) fun _ => rfl]
    rfl
  have options : Bag.value? (liftData bag) ["config", "properties"] =
      (bag.lookup "config").or ((bag.canvas?.map canvasOptions).or (bag.lookup "properties")) := by
    simp only [Bag.value?_cons]
    rw [lookup_liftData bag (by decide), lookup_liftData_unlent bag (by decide) fun _ => rfl,
      Option.or_assoc]
    cases bag.canvas? <;> cases bag.lookup "properties" <;> rfl
  have label : Bag.value? (liftData bag) ["label"] =
      (bag.lookup "label").or (bag.canvas?.bind (·.shownLabel?)) := by
    rw [Bag.value?_cons, lookup_liftData bag (by decide)]
    exact Option.or_none
  have absentOptions (given : Option Value) (taken : Bag) :
      (given.elim (taken = []) fun v => readMapping v = .ok taken) ↔
        given.getD (.map []) = .map taken := by
    cases given <;> simp [readMapping_eq_ok_iff, eq_comm]
  have absentLabel (given : Option Value) (taken : Option String) :
      (given.elim (taken = none) fun v =>
        Reading.ofScalar (Scalar.optional Scalar.text) v = .ok taken) ↔
        given.getD .null = taken.elim .null .text := by
    cases given <;> cases taken <;> simp [ofScalar_optionalText_eq_ok_iff]
  simp only [readNode, readRecord, Reading.seq_eq_ok_iff, Reading.fmap_eq_ok_iff,
    requiredAt_eq_ok_iff, optionAt_eq_ok_iff, id, kind, options, label, absentOptions, absentLabel,
    ofScalar_nonemptyText_eq_ok_iff, ofScalar_text_eq_ok_iff]
  constructor
  · rintro ⟨_, label, ⟨_, options, ⟨_, kind, ⟨id, ⟨_, found, rfl, nonempty⟩, rfl⟩,
      ⟨_, known, rfl⟩, rfl⟩, given, rfl⟩, shown, rfl⟩
    exact ⟨⟨⟨found, nonempty⟩, known, shown⟩, given⟩
  · rintro ⟨⟨⟨found, nonempty⟩, known, shown⟩, given⟩
    exact ⟨_, _, ⟨_, _, ⟨_, _, ⟨_, ⟨_, found, rfl, nonempty⟩, rfl⟩, ⟨_, known, rfl⟩, rfl⟩, given,
      rfl⟩, shown, rfl⟩

/-! ## Options -/

/-- The options that the record of a node gives. Its `config` comes before all else; beside a canvas
record its `properties` are not looked at. -/
inductive Bag.Gives (bag options : Bag) : Prop
  | config (own : bag.lookup "config" = some (.map options))
  | properties (unset : bag.lookup "config" = none) (plain : bag.canvas? = none)
      (own : bag.lookup "properties" = some (.map options))
  | neither (unset : bag.lookup "config" = none) (plain : bag.canvas? = none)
      (unlisted : bag.lookup "properties" = none) (empty : options = [])
  | canvas {inner : Bag} (unset : bag.lookup "config" = none) (drawn : bag.canvas? = some inner)
      (held : inner.lookup "properties" = some (.map options))
  | blank {inner : Bag} (unset : bag.lookup "config" = none) (drawn : bag.canvas? = some inner)
      (nothing : ∀ v, inner.lookup "properties" = some v → v.truthy = false)
      (empty : options = [])

theorem canvasOptions_eq_map_iff {inner options : Bag} :
    canvasOptions inner = .map options ↔ inner.lookup "properties" = some (.map options) ∨
      (∀ v, inner.lookup "properties" = some v → v.truthy = false) ∧ options = [] := by
  have blank (h : (Value.map options).truthy = false) : options = [] := by
    simpa [Value.truthy] using h
  rw [canvasOptions]
  cases inner.lookup "properties" with
  | none => simp only [Option.filter_none, Option.getD_none, Value.map.injEq, reduceCtorEq,
      false_implies, implies_true, true_and, false_or, eq_comm]
  | some held =>
      simp only [Option.some.injEq, forall_eq']
      cases counts : held.truthy with
      | true =>
          rw [Option.filter_some_pos counts, Option.getD_some]
          simp
      | false =>
          rw [Option.filter_some_neg (by simp [counts]), Option.getD_none, Value.map.injEq]
          refine ⟨fun empty => .inr ⟨rfl, empty.symm⟩, ?_⟩
          rintro (rfl | ⟨-, rfl⟩)
          · exact (blank counts).symm
          · rfl

theorem Bag.gives_iff {bag options : Bag} :
    Bag.Gives bag options ↔ bag.givenOptions = .map options := by
  rw [givenOptions]
  constructor
  · rintro (own | ⟨unset, plain, own⟩ | ⟨unset, plain, unlisted, rfl⟩ | ⟨unset, drawn, held⟩ |
      ⟨unset, drawn, nothing, rfl⟩)
    · rw [own]
      rfl
    · rw [unset, plain, own]
      rfl
    · rw [unset, plain, unlisted]
      rfl
    · rw [unset, drawn]
      exact canvasOptions_eq_map_iff.mpr (.inl held)
    · rw [unset, drawn]
      exact canvasOptions_eq_map_iff.mpr (.inr ⟨nothing, rfl⟩)
  · intro given
    cases config : bag.lookup "config" with
    | some v =>
        rw [config] at given
        exact .config (config.trans (congrArg some given))
    | none =>
        rw [config] at given
        cases drawn : bag.canvas? with
        | some inner =>
            rw [drawn] at given
            obtain held | ⟨nothing, empty⟩ := canvasOptions_eq_map_iff.mp given
            · exact .canvas config drawn held
            · exact .blank config drawn nothing empty
        | none =>
            rw [drawn] at given
            cases listed : bag.lookup "properties" with
            | some v =>
                rw [listed] at given
                exact .properties config drawn (listed.trans (congrArg some given))
            | none =>
                rw [listed] at given
                cases given
                exact .neither config drawn listed rfl

/-- A node is read with the options that its record gives, and so are all nodes of a document. -/
theorem readNode_gives (bag document : Bag) :
    (∀ (id kind : String) (label : Option String), Bag.Names bag id kind label →
      ∀ options, readNode (.map bag) = .ok ⟨id, kind, options, label⟩ ↔ Bag.Gives bag options) ∧
    ∀ (items : List Value) (draft : Draft), document.lookup "nodes" = some (.list items) →
      Draft.ofDocument (.map document) = .ok draft →
      List.Forall₂ (fun item node => ∃ record, item = .map record ∧ Bag.Gives record node.options)
        items draft.nodes := by
  refine ⟨fun id kind label named options => ?_, fun items draft listed read => ?_⟩
  · rw [readNode_eq_ok_iff, Bag.gives_iff]
    exact ⟨And.right, fun given => ⟨named, given⟩⟩
  · obtain ⟨nodes, -⟩ := Draft.ofDocument_eq_ok_iff.mp read
    rw [optionAt_singleton, listed, Option.elim_some, Reading.under_eq_ok_iff] at nodes
    refine ((Reading.items_eq_ok_iff 0 items draft.nodes).mp nodes).imp fun item node read => ?_
    cases item with
    | map record => exact ⟨record, rfl, Bag.gives_iff.mpr (readNode_eq_ok_iff.mp read).2⟩
    | null | bool _ | int _ | float _ | text _ | list _ => cases read

/-- A filter as a canvas draws it. -/
def Bag.drawn : Bag :=
  [("id", .text "heavy"), ("type", .text "filter"),
    ("data", .map [("label", .text "Heavy"), ("properties", .map [("property", .text "Load")])])]

/-- What is read of it. -/
def DraftNode.drawn : DraftNode :=
  ⟨"heavy", "filter", [("property", .text "Load")], some "Heavy"⟩

theorem readNode_gives_drawn :
    Bag.Names Bag.drawn "heavy" "filter" (some "Heavy") ∧
    readNode (.map Bag.drawn) = .ok DraftNode.drawn ∧
    Draft.ofDocument (.map [("nodes", .list [.map Bag.drawn])]) = .ok ⟨[DraftNode.drawn], []⟩ ∧
    List.Forall₂ (fun item node => ∃ record, item = .map record ∧ Bag.Gives record node.options)
      [Value.map Bag.drawn] [DraftNode.drawn] := by
  have named : Bag.Names Bag.drawn "heavy" "filter" (some "Heavy") :=
    ⟨⟨rfl, by decide⟩, rfl, rfl⟩
  have gives := readNode_gives Bag.drawn [("nodes", .list [.map Bag.drawn])]
  refine ⟨named, (gives.1 _ _ _ named _).mpr (.canvas rfl rfl rfl), rfl, ?_⟩
  exact gives.2 [.map Bag.drawn] ⟨[DraftNode.drawn], []⟩ rfl rfl

/-- A filter with options of its own, and a canvas record that has nothing but a label. -/
def Bag.overdrawn : Bag :=
  [("id", .text "heavy"), ("kind", .text "filter"),
    ("properties", .map [("property", .text "Load")]), ("data", .map [("label", .text "Heavy")])]

/-- Options that stand under `properties` are lost beside a canvas record. -/
theorem readNode_overdrawn : Bag.Names Bag.overdrawn "heavy" "filter" (some "Heavy") ∧
    Bag.overdrawn.lookup "config" = none ∧
    Bag.overdrawn.lookup "properties" = some (.map [("property", .text "Load")]) ∧
    readNode (.map Bag.overdrawn) = .ok ⟨"heavy", "filter", [], some "Heavy"⟩ :=
  ⟨⟨⟨rfl, by decide⟩, rfl, rfl⟩, rfl, rfl, rfl⟩

end BuildingWorkflow
