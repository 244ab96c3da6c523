import BuildingWorkflow.Proofs.Options.Spelling

/-!
Options read back.

What a reader gives, written as a value, is read as the same thing again, whatever it was read off.
So options that were taken are fixed points: written as a bag under their plain names they are
taken again. The bounds of two numbers are the only condition on the way, and reading checks them.
-/
namespace BuildingWorkflow

/-! ## Choices -/

/-- No two choices go by one name. -/
class LawfulChoice (α : Type) [Choice α] : Prop where
  ofName?_name (a : α) : Choice.ofName? (Choice.name a) = some a

/-- The names are what is left of them without blanks and capitals. -/
class NormalChoice (α : Type) [Choice α] : Prop where
  normalized_value (a : α) : Scalar.normalized (Choice.value a) = Choice.value a

namespace Choice

instance : LawfulChoice ParameterType := ⟨fun a => by cases a <;> rfl⟩
instance : LawfulChoice FilterType := ⟨fun a => by cases a <;> rfl⟩
instance : LawfulChoice FilterOperator := ⟨fun a => by cases a <;> rfl⟩
instance : LawfulChoice Measure := ⟨fun a => by cases a <;> rfl⟩
instance : LawfulChoice Grouping := ⟨fun a => by cases a <;> rfl⟩
instance : LawfulChoice PropertyAction := ⟨fun a => by cases a <;> rfl⟩
instance : LawfulChoice ClassificationAction := ⟨fun a => by cases a <;> rfl⟩
instance : LawfulChoice SpatialQuery := ⟨fun a => by cases a <;> rfl⟩
instance : LawfulChoice Relation := ⟨fun a => by cases a <;> rfl⟩
instance : LawfulChoice Direction := ⟨fun a => by cases a <;> rfl⟩
instance : LawfulChoice AnalysisType := ⟨fun a => by cases a <;> rfl⟩
instance : LawfulChoice SpaceMetric := ⟨fun a => by cases a <;> rfl⟩
instance : LawfulChoice ExportFormat := ⟨fun a => by cases a <;> rfl⟩
instance : LawfulChoice DisplayMode := ⟨fun a => by cases a <;> rfl⟩
instance : LawfulChoice ViewMode := ⟨fun a => by cases a <;> rfl⟩

instance : NormalChoice ParameterType := ⟨fun a => by cases a <;> rfl⟩
instance : NormalChoice Measure := ⟨fun a => by cases a <;> rfl⟩
instance : NormalChoice Grouping := ⟨fun a => by cases a <;> rfl⟩
instance : NormalChoice PropertyAction := ⟨fun a => by cases a <;> rfl⟩
instance : NormalChoice ClassificationAction := ⟨fun a => by cases a <;> rfl⟩
instance : NormalChoice AnalysisType := ⟨fun a => by cases a <;> rfl⟩
instance : NormalChoice ExportFormat := ⟨fun a => by cases a <;> rfl⟩

end Choice

/-! ## Scalars -/

namespace Scalar

variable {α : Type} [Choice α] [LawfulChoice α] {v : Value} {x : Binary64}

theorem text_text (s : String) : text (.text s) = .ok s := rfl

theorem flag_bool (b : Bool) : flag (.bool b) = .ok b := rfl

theorem number_float (x : Binary64) : number (.float x) = .ok x := rfl

theorem any_self (v : Value) : any v = .ok v := rfl

theorem comparison_text (s : String) :
    (fun v => .ok (NodeOptions.comparisonText v) : Reader String) (.text s) = .ok s := rfl

theorem choice_value (a : α) : choice α (Choice.value a) = .ok a := by
  simp only [choice, Choice.value, LawfulChoice.ofName?_name]

theorem looseChoice_value [NormalChoice α] (a : α) : looseChoice α (Choice.value a) = .ok a := by
  rw [looseChoice, NormalChoice.normalized_value, choice_value]

theorem optional_optionalText (s : Option String) :
    optional text (NodeOptions.optionalText s) = .ok s := by
  cases s <;> rfl

theorem optional_whole (n : Option Int) : optional whole (n.elim .null .int) = .ok n := by
  cases n <;> rfl

theorem readAnalysisType_value (type : AnalysisType) :
    NodeOptions.readAnalysisType (Choice.value type) = .ok type := by
  cases type <;> rfl

/-- What a check lets through is what was read, and it passes the check. -/
theorem checked_eq_ok_iff {read : Reader Binary64} {p : Binary64 → Prop} [DecidablePred p]
    {cause : OptionCause} :
    (do let y ← read v; if p y then pure y else throw cause) = Except.ok x ↔
      read v = .ok x ∧ p x := by
  cases read v with
  | error other => simp [bind, Except.bind]
  | ok y =>
      by_cases passes : p y
      · simp only [bind, Except.bind, passes, if_true, pure, Except.pure, Except.ok.injEq]
        exact ⟨fun same => ⟨same, same ▸ passes⟩, And.left⟩
      · simp only [bind, Except.bind, passes, if_false, throw, throwThe, MonadExceptOf.throw,
          reduceCtorEq, Except.ok.injEq, false_iff, not_and]
        exact fun same => same ▸ passes

theorem numberFrom_eq_ok_iff {bound : Nat} :
    numberFrom bound v = .ok x ↔ number v = .ok x ∧ (Binary64.ofInt bound).atMost x :=
  checked_eq_ok_iff

theorem numberAbove_eq_ok_iff {bound : Nat} :
    numberAbove bound v = .ok x ↔ number v = .ok x ∧ (Binary64.ofInt bound).less x :=
  checked_eq_ok_iff

end Scalar

namespace NodeOptions

open Reading Scalar

variable {kind : NodeKind} {bag : Bag} {options : NodeOptions} {name : String} {v : Value}

/-! ## Bounds -/

/-- The numbers that have a bound keep it. -/
def Bounded : NodeOptions → Prop
  | spatial o => (Binary64.ofInt (0 : Nat)).atMost o.distance
  | analysis o => (Binary64.ofInt (0 : Nat)).less o.tolerance
  | _ => True

theorem bounded_of_read (taken : read kind bag = .ok options) : options.Bounded := by
  obtain rfl := kind_of_read taken
  have fields := readFields_of_read taken
  cases options with
  | spatial o =>
      simp only [kind, readFields, seq_eq_ok_iff, fmap_eq_ok_iff] at fields
      obtain ⟨_, ⟨_, distance, ⟨query, -, rfl⟩, h, rfl⟩, same⟩ := fields
      cases same
      have default : (Binary64.ofInt (0 : Nat)).atMost 1 := by decide +kernel
      exact of_optionAt (p := fun x => (Binary64.ofInt (0 : Nat)).atMost x) h default fun _ read =>
        (numberFrom_eq_ok_iff.mp (ofScalar_eq_ok_iff.mp read)).2
  | analysis o =>
      simp only [kind, readFields, seq_eq_ok_iff, fmap_eq_ok_iff] at fields
      obtain ⟨_, ⟨_, seed, ⟨_, metric, ⟨_, tolerance, ⟨type, -, rfl⟩, h, rfl⟩, -, rfl⟩, -, rfl⟩,
        same⟩ := fields
      cases same
      have default : (Binary64.ofInt (0 : Nat)).less 10 := by decide +kernel
      exact of_optionAt (p := fun x => (Binary64.ofInt (0 : Nat)).less x) h default fun _ read =>
        (numberAbove_eq_ok_iff.mp (ofScalar_eq_ok_iff.mp read)).2
  | _ => trivial

/-! ## Bags -/

theorem map_fst_bag (options : NodeOptions) :
    options.bag.map Prod.fst = optionNames options.kind := by
  cases options <;> rfl

theorem nodup_optionNames (kind : NodeKind) : (optionNames kind).Nodup := by
  cases kind <;> decide

theorem givenOnce_bag (options : NodeOptions) : options.bag.GivenOnce options.kind := by
  have distinct : (options.bag.map Prod.fst).Nodup := map_fst_bag options ▸ nodup_optionNames _
  have named {entry : String × Value} (member : entry ∈ options.bag) :
      Spells options.kind entry.1 entry.1 :=
    .plain (map_fst_bag options ▸ List.mem_map_of_mem member)
  refine (List.pairwise_map.mp distinct).imp_of_mem fun member member' different => ?_
  intro name spells spells'
  exact different ((spells.unique (named member)).symm.trans (spells'.unique (named member')))

theorem value?_bag (member : (name, v) ∈ options.bag) :
    options.bag.value? (optionSpellings options.kind name) = some v := by
  have option : name ∈ optionNames options.kind :=
    map_fst_bag options ▸ List.mem_map_of_mem member
  exact (Bag.value?_eq_some_iff (givenOnce_bag options) option).mpr ⟨name, .plain option, member⟩

theorem unreadKeys_bag (options : NodeOptions) :
    unreadKeys options.bag ((optionNames options.kind).map (optionSpellings options.kind)) = [] :=
  (Bag.unreadKeys_eq_nil_iff (givenOnce_bag options)).mpr fun entry member =>
    ⟨entry.1, .plain (map_fst_bag options ▸ List.mem_map_of_mem member)⟩

/-- What stands in the bag under the name of an option is read for it. -/
theorem optionAt_bag {α : Type} {a default : α} {read : Value → Reading α}
    (found : options.bag.lookup name = some v) (back : read v = .ok a) :
    optionAt options.bag (optionSpellings options.kind name) default read = .ok a := by
  rw [optionAt_eq_ok_iff, value?_bag (mem_of_lookup found)]
  exact back

theorem optionalBag_rangeOptions (range : Option ParameterRange) :
    optionalBag "ParameterRange" readRange (range.elim .null rangeOptions) = .ok range := by
  cases range <;> rfl

theorem readTriple_bag {o : TransformOptions} {t : Triple} (default : Binary64)
    (x : (transform o).bag.lookup (name ++ "_x") = some (.float t.x))
    (y : (transform o).bag.lookup (name ++ "_y") = some (.float t.y))
    (z : (transform o).bag.lookup (name ++ "_z") = some (.float t.z)) :
    readTriple (transform o).bag name default = .ok t := by
  have option {name : String} {x : Binary64}
      (found : (transform o).bag.lookup name = some (.float x)) :
      namedOption (transform o).bag name default number = .ok x := by
    rw [namedOption, ← show optionSpellings (transform o).kind name = spellings name from rfl]
    exact optionAt_bag found (ofScalar_eq_ok_iff.mpr (number_float x))
  exact seq_of_eq_ok (seq_of_eq_ok (fmap_of_eq_ok (option x)) (option y)) (option z)

theorem readFields_bag (bounded : options.Bounded) :
    readFields options.kind options.bag = .ok options := by
  have option {α : Type} {name : String} {v : Value} {a default : α} {read : Reader α}
      (back : read v = .ok a) (found : options.bag.lookup name = some v) :
      optionAt options.bag (optionSpellings options.kind name) default (ofScalar read) = .ok a :=
    optionAt_bag found (ofScalar_eq_ok_iff.mpr back)
  cases options with
  | source o => exact fmap_of_eq_ok (fmap_of_eq_ok (option (optional_optionalText _) rfl))
  | parameter o =>
      exact fmap_of_eq_ok <| seq_of_eq_ok (seq_of_eq_ok (seq_of_eq_ok
        (fmap_of_eq_ok (option (any_self _) rfl)) (option (looseChoice_value _) rfl))
        (option (optional_optionalText _) rfl))
        (optionAt_bag (show (parameter o).bag.lookup "range" = _ from rfl)
          (optionalBag_rangeOptions _))
  | geometry o =>
      exact fmap_of_eq_ok <| seq_of_eq_ok (seq_of_eq_ok
        (fmap_of_eq_ok (option (text_text _) rfl)) (option (flag_bool _) rfl))
        (option (flag_bool _) rfl)
  | filter o =>
      exact fmap_of_eq_ok <| seq_of_eq_ok (seq_of_eq_ok (seq_of_eq_ok (seq_of_eq_ok
        (fmap_of_eq_ok (option (choice_value _) rfl)) (option (text_text _) rfl))
        (option (choice_value _) rfl)) (option (comparison_text _) rfl))
        (option (optional_optionalText _) rfl)
  | transform o =>
      exact fmap_of_eq_ok <| fmap_of_eq_ok <| seq_of_eq_ok (seq_of_eq_ok
        (fmap_of_eq_ok (readTriple_bag 0 rfl rfl rfl)) (readTriple_bag 0 rfl rfl rfl))
        (readTriple_bag 1 rfl rfl rfl)
  | quantity o =>
      exact fmap_of_eq_ok <| seq_of_eq_ok (seq_of_eq_ok
        (fmap_of_eq_ok (option (looseChoice_value _) rfl)) (option (looseChoice_value _) rfl))
        (option (text_text _) rfl)
  | property o =>
      exact fmap_of_eq_ok <| seq_of_eq_ok (seq_of_eq_ok (seq_of_eq_ok (seq_of_eq_ok
        (fmap_of_eq_ok (option (text_text _) rfl)) (option (looseChoice_value _) rfl))
        (option (any_self _) rfl)) (option (text_text _) rfl)) (option (flag_bool _) rfl)
  | classification o =>
      exact fmap_of_eq_ok <| seq_of_eq_ok (seq_of_eq_ok
        (fmap_of_eq_ok (option (text_text _) rfl)) (option (looseChoice_value _) rfl))
        (option (text_text _) rfl)
  | spatial o =>
      exact fmap_of_eq_ok <| seq_of_eq_ok (fmap_of_eq_ok (option (choice_value _) rfl))
        (option (numberFrom_eq_ok_iff.mpr ⟨number_float _, bounded⟩) rfl)
  | relationship o =>
      exact fmap_of_eq_ok <| seq_of_eq_ok (fmap_of_eq_ok (option (choice_value _) rfl))
        (option (choice_value _) rfl)
  | analysis o =>
      exact fmap_of_eq_ok <| seq_of_eq_ok (seq_of_eq_ok (seq_of_eq_ok
        (fmap_of_eq_ok (option (readAnalysisType_value _) rfl))
        (option (numberAbove_eq_ok_iff.mpr ⟨number_float _, bounded⟩) rfl))
        (option (choice_value _) rfl)) (option (optional_whole _) rfl)
  | exporter o =>
      exact fmap_of_eq_ok <| seq_of_eq_ok (seq_of_eq_ok
        (fmap_of_eq_ok (option (looseChoice_value _) rfl)) (option (text_text _) rfl))
        (option (text_text _) rfl)
  | watch o =>
      exact fmap_of_eq_ok <| seq_of_eq_ok (fmap_of_eq_ok (option (choice_value _) rfl))
        (option (flag_bool _) rfl)
  | viewer o =>
      exact fmap_of_eq_ok <| seq_of_eq_ok (fmap_of_eq_ok (option (choice_value _) rfl))
        (option (flag_bool _) rfl)

theorem read_bag (bounded : options.Bounded) : read options.kind options.bag = .ok options :=
  read_eq_ok_iff.mpr ⟨unreadKeys_bag options, readFields_bag bounded⟩

/-- Options that were taken off any value, written as a bag under their names, are taken again and
are the same. -/
theorem ofValue_bag {raw : Value} (taken : ofValue kind raw = .ok options) :
    options.bag.map Prod.fst = optionNames kind ∧
      ofValue kind (.map options.bag) = .ok options := by
  obtain ⟨bag, read⟩ := exists_read_of_ofValue taken
  obtain rfl := kind_of_read read
  refine ⟨map_fst_bag options, ?_⟩
  rw [ofValue_map]
  exact read_bag (bounded_of_read read)

theorem ofValue_bag_space :
    ofValue .analysis (.map [("analysisType", .text " SPATIAL"), ("metric", .text "volume"),
      ("seed", .text " +020 ")]) = .ok (.analysis ⟨.space, 10, .volume, some 20⟩) ∧
    ofValue .analysis (.map [("analysis_type", .text "space"), ("tolerance", .float 10),
      ("metric", .text "volume"), ("seed", .int 20)]) =
      .ok (.analysis ⟨.space, 10, .volume, some 20⟩) := by
  have taken : ofValue .analysis (.map [("analysisType", .text " SPATIAL"),
      ("metric", .text "volume"), ("seed", .text " +020 ")]) =
      .ok (.analysis ⟨.space, 10, .volume, some 20⟩) := by rfl
  exact ⟨taken, (ofValue_bag taken).2⟩

end NodeOptions

end BuildingWorkflow
