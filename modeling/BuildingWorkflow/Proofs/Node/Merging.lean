import BuildingWorkflow.Proofs.Node.Edited
import BuildingWorkflow.Proofs.Node.Elementwise

/-!
Merged collections.

Collections are merged by standing in a row, under the first model that is known. Nodes that look at
one element at a time do the same to the merged collection as to each part, and it does not matter
in which steps watch and viewer nodes bring the parts together.
-/
namespace BuildingWorkflow

namespace Collection

theorem append_assoc (c c' c'' : Collection) :
    (c.append c').append c'' = c.append (c'.append c'') := by
  simp [append, List.append_assoc, Option.or_assoc]

theorem empty_append (c : Collection) : empty.append c = c := by
  simp [append, empty]

/-- The elements of all collections in a row, with the first model that is known. -/
def concat (cs : List Collection) : Collection := ⟨cs.flatMap elements, cs.findSome? model⟩

@[simp] theorem concat_nil : concat [] = empty := rfl

@[simp] theorem concat_cons (c : Collection) (cs : List Collection) :
    concat (c :: cs) = c.append (concat cs) := by
  rw [concat, concat, append, List.flatMap_cons, List.findSome?_cons]
  cases c.model <;> rfl

theorem concat_append (cs cs' : List Collection) :
    concat (cs ++ cs') = (concat cs).append (concat cs') := by
  induction cs with
  | nil => exact (empty_append _).symm
  | cons c cs ih => rw [List.cons_append, concat_cons, concat_cons, ih, append_assoc]

end Collection

open Collection

theorem mergeCollections_elements (inlet : String) (cs : List Collection) :
    mergeCollections inlet (cs.map .elements) = .ok (concat cs) := by
  induction cs with
  | nil => rfl
  | cons c cs ih =>
      simp only [List.map_cons, mergeCollections, collectionOf, ih, concat_cons]
      rfl

/-- Collections come out of an observing node in a row. -/
theorem passThrough_of_collections {inputs : Inputs} {cs : List Collection}
    (results : inputs.results mainInlet = cs.map .elements) :
    passThrough inputs = .ok (.elements (concat cs)) := by
  have main : inputs.main = .ok (concat cs) := by
    rw [Inputs.main, Inputs.collection, results, mergeCollections_elements]
  unfold passThrough
  rw [main, results]
  obtain _ | ⟨c, _ | ⟨c', cs⟩⟩ := cs
  · rfl
  · rw [concat_cons, concat_nil, append_empty]
    rfl
  · have kinds : (List.map NodeResult.elements (c :: c' :: cs)).all
        (·.kindName == "elements") = true := by
      simp [NodeResult.kindName]
    exact if_pos kinds

/-! ## Part by part -/

/-- Working on two lists in a row gives the two results in a row, and of two faults the first. -/
def PartByPart (work : List Element → Except Fault (List Element)) : Prop :=
  ∀ first second, work (first ++ second) = do return (← work first) ++ (← work second)

namespace PartByPart

theorem map (edit : Element → Element) : PartByPart fun es => .ok (es.map edit) := fun _ _ =>
  congrArg Except.ok List.map_append

theorem filter (keep : Element → Bool) : PartByPart fun es => .ok (es.filter keep) :=
  fun first second => congrArg Except.ok (List.filter_append first second)

theorem fault (fault : Fault) : PartByPart fun _ => .error fault := fun _ _ => rfl

theorem passing (test : Element → Except Fault Bool) : PartByPart (keepWhere test) := by
  intro first second
  induction first with
  | nil =>
      change keepWhere test second = keepWhere test second >>= pure
      exact (bind_pure _).symm
  | cons e rest ih =>
      simp only [List.cons_append, keepWhere, ih, bind_assoc, pure_bind]
      refine congrArg (test e >>= ·) (funext fun pass => ?_)
      cases pass <;> rfl

end PartByPart

theorem FilterOptions.partByPart_keep (o : FilterOptions) : PartByPart o.keep := by
  by_cases sets : o.type = .psetExists
  · have same : o.keep = _ := funext (keep_of_sets sets)
    rw [same]
    by_cases unnamed : o.wantedSet = ""
    · simp only [if_pos unnamed]
      exact .fault _
    · simp only [if_neg unnamed]
      exact .filter _
  · have same : o.keep = _ := funext (keep_of_values sets)
    rw [same]
    split
    · exact .fault _
    · exact .passing _

namespace NodeOptions

/-- Filters, selections, placements, and property and classification nodes. -/
def Elementwise : NodeOptions → Prop
  | geometry _ | filter _ | transform _ | property _ | classification _ => True
  | _ => False

/-- A node makes one collection of another one. -/
def Makes (options : NodeOptions) (rest : Inputs) (help : Collaborators) (c made : Collection) :
    Prop :=
  options.evaluate (rest.fed c) help = .value (.elements made)

/-- What a node of these kinds makes of a list of elements. -/
structure WorksOn (options : NodeOptions) (rest : Inputs) (help : Collaborators)
    (work : List Element → Except Fault (List Element)) : Prop where
  partByPart : PartByPart work
  evaluate_fed : ∀ c, options.evaluate (rest.fed c) help =
    .ofExcept ((work c.elements).map fun es => .elements ⟨es, c.model⟩)

theorem Elementwise.exists_work {options : NodeOptions} (elementwise : options.Elementwise)
    (rest : Inputs) (help : Collaborators) : ∃ work, options.WorksOn rest help work := by
  have main := rest.main_fed
  cases options with
  | geometry o => exact ⟨_, .filter o.selects, fun c => congrArg Answer.ofExcept (o.evaluate_eq (main c))⟩
  | filter o =>
      cases supported : o.type.operators.contains o.operator with
      | true =>
          refine ⟨_, o.partByPart_keep, fun c => congrArg Answer.ofExcept ?_⟩
          rw [FilterOptions.evaluate_of_supported supported, main c]
          rfl
      | false =>
          refine ⟨_, .fault (.unsupportedOperator (Choice.name o.type) (Choice.name o.operator)
            ((o.type.operators.map Choice.name).mergeSort)), fun c => congrArg Answer.ofExcept ?_⟩
          simp only [FilterOptions.evaluate, supported]
          rfl
  | transform o => exact ⟨_, .map o.edit, fun c => congrArg Answer.ofExcept (o.evaluate_eq (main c))⟩
  | classification o =>
      exact ⟨_, .map o.edit, fun c => congrArg Answer.ofExcept (o.evaluate_eq (main c))⟩
  | property o =>
      cases supplied : o.valueFor rest with
      | ok v =>
          exact ⟨_, .map (o.applied v), fun c =>
            congrArg Answer.ofExcept (o.evaluate_fed rest c supplied)⟩
      | error fault =>
          by_cases named : o.place.1 = ""
          · refine ⟨_, .map id, fun c => congrArg Answer.ofExcept ?_⟩
            rw [PropertyOptions.evaluate_unnamed (main c) named, List.map_id]
            rfl
          · have unsupplied (c : Collection) := (o.valueFor_fed rest c).trans supplied
            exact ⟨_, .fault fault, fun c => congrArg Answer.ofExcept
              (PropertyOptions.evaluate_unsupplied (main c) named (unsupplied c))⟩
  | _ => exact elementwise.elim

namespace WorksOn

variable {options : NodeOptions} {rest : Inputs} {help : Collaborators}
  {work : List Element → Except Fault (List Element)} (works : options.WorksOn rest help work)

include works

theorem makes_iff {c made : Collection} :
    options.Makes rest help c made ↔
      work c.elements = .ok made.elements ∧ made.model = c.model := by
  rw [Makes, works.evaluate_fed]
  cases work c.elements with
  | error fault => exact ⟨nofun, fun h => nomatch h.1⟩
  | ok es =>
      obtain ⟨elements, model⟩ := made
      simp [Answer.ofExcept, Except.map, eq_comm]

/-- What is made of two collections in a row are the two that are made of each. -/
theorem makes_append {c c' made : Collection} :
    options.Makes rest help (c.append c') made ↔ ∃ part part',
      options.Makes rest help c part ∧ options.Makes rest help c' part' ∧
        made = part.append part' := by
  simp only [works.makes_iff]
  have split : work (c.append c').elements = do
      return (← work c.elements) ++ (← work c'.elements) := works.partByPart _ _
  rw [split]
  constructor
  · rintro ⟨done, model⟩
    obtain ⟨es, first, done⟩ := bind_eq_ok done
    obtain ⟨es', second, done⟩ := bind_eq_ok done
    refine ⟨⟨es, c.model⟩, ⟨es', c'.model⟩, ⟨first, rfl⟩, ⟨second, rfl⟩, ?_⟩
    obtain ⟨elements, known⟩ := made
    obtain rfl := Except.ok.inj done
    obtain rfl : known = _ := model
    rfl
  · rintro ⟨part, part', ⟨first, model⟩, ⟨second, model'⟩, rfl⟩
    rw [first, second]
    exact ⟨rfl, congrArg₂ Option.or model model'⟩

theorem eq_empty_of_makes {made : Collection} (done : options.Makes rest help .empty made) :
    made = .empty := by
  obtain ⟨elements, known⟩ := made
  obtain ⟨done, model⟩ := works.makes_iff.mp done
  have twice : work [] = do return (← work []) ++ (← work []) := works.partByPart [] []
  change work [] = .ok elements at done
  rw [done] at twice
  have none : elements = [] := List.self_eq_append_right.mp (Except.ok.inj twice)
  obtain rfl : known = Option.none := model
  rw [none]
  rfl

theorem makes_concat_of_parts {cs parts : List Collection}
    (each : List.Forall₂ (options.Makes rest help) cs parts)
    (idle : options.Makes rest help .empty .empty) :
    options.Makes rest help (concat cs) (concat parts) := by
  induction each with
  | nil => exact idle
  | cons head _ ih =>
      rw [concat_cons, concat_cons]
      exact works.makes_append.mpr ⟨_, _, head, ih, rfl⟩

theorem exists_parts_of_makes {cs : List Collection} {whole : Collection}
    (done : options.Makes rest help (concat cs) whole) :
    ∃ parts, List.Forall₂ (options.Makes rest help) cs parts ∧ whole = concat parts := by
  induction cs generalizing whole with
  | nil => exact ⟨[], .nil, works.eq_empty_of_makes done⟩
  | cons c cs ih =>
      rw [concat_cons] at done
      obtain ⟨part, others, first, further, rfl⟩ := works.makes_append.mp done
      obtain ⟨parts, each, rfl⟩ := ih further
      exact ⟨part :: parts, .cons first each, (concat_cons part parts).symm⟩

/-- A node that makes anything of some collection makes nothing of nothing. -/
theorem makes_empty {c made : Collection} (done : options.Makes rest help c made) :
    options.Makes rest help .empty .empty := by
  rw [← c.append_empty] at done
  obtain ⟨-, part, -, second, -⟩ := works.makes_append.mp done
  obtain rfl := works.eq_empty_of_makes second
  exact second

end WorksOn

end NodeOptions

/-! ## Trees of observing nodes -/

/-- Watch and viewer nodes that feed each other, down to collections from elsewhere. -/
inductive Watching
  | collection (c : Collection)
  | watch (options : WatchOptions) (feeding : List Watching)
  | viewer (options : ViewerOptions) (feeding : List Watching)

/-- Inputs with some results at the main inlet and nothing else. -/
def Inputs.gathered (results : List NodeResult) : Inputs := .ofList [(mainInlet, results)]

namespace Watching

mutual

/-- What comes out of a tree when each of its nodes is evaluated on what comes out below it. -/
def result (help : Collaborators) : Watching → Answer NodeResult
  | collection c => .value (.elements c)
  | watch options feeding => do
      (NodeOptions.watch options).evaluate (.gathered (← results help feeding)) help
  | viewer options feeding => do
      (NodeOptions.viewer options).evaluate (.gathered (← results help feeding)) help

def results (help : Collaborators) : List Watching → Answer (List NodeResult)
  | [] => .value []
  | tree :: rest => do return (← result help tree) :: (← results help rest)

end

mutual

/-- The collections at the ends of a tree, in order. -/
def ends : Watching → List Collection
  | collection c => [c]
  | watch _ feeding | viewer _ feeding => allEnds feeding

def allEnds : List Watching → List Collection
  | [] => []
  | tree :: rest => ends tree ++ allEnds rest

end

mutual

theorem result_eq (help : Collaborators) :
    ∀ tree : Watching, tree.result help = .value (.elements (concat tree.ends))
  | collection c => by rw [result, ends, concat_cons, concat_nil, c.append_empty]
  | watch options feeding => by
      obtain ⟨cs, fed, same⟩ := exists_results help feeding
      rw [result, fed, ends, ← same]
      exact congrArg Answer.ofExcept (passThrough_of_collections rfl)
  | viewer options feeding => by
      obtain ⟨cs, fed, same⟩ := exists_results help feeding
      rw [result, fed, ends, ← same]
      exact congrArg Answer.ofExcept (passThrough_of_collections rfl)

theorem exists_results (help : Collaborators) : ∀ feeding : List Watching,
    ∃ cs : List Collection, results help feeding = .value (cs.map .elements) ∧
      concat cs = concat (allEnds feeding)
  | [] => ⟨[], rfl, rfl⟩
  | tree :: rest => by
      obtain ⟨cs, others, same⟩ := exists_results help rest
      refine ⟨concat tree.ends :: cs, ?_, ?_⟩
      · rw [results, result_eq help tree, others]
        rfl
      · rw [concat_cons, same, allEnds, concat_append]

end

end Watching

/-- Merging comes before or after the work of nodes that look at one element at a time: what they
make of collections in a row are, in a row, the collections that they make of each, and they make
something of the row exactly when they do of each, unless there is none. In what groups collections
are merged does not count. -/
theorem merged_part_by_part :
    (∀ {options : NodeOptions}, options.Elementwise →
      ∀ (rest : Inputs) (help : Collaborators) (cs : List Collection),
        (∀ parts, cs ≠ [] → List.Forall₂ (options.Makes rest help) cs parts →
          options.Makes rest help (concat cs) (concat parts)) ∧
        ∀ whole, options.Makes rest help (concat cs) whole →
          ∃ parts, List.Forall₂ (options.Makes rest help) cs parts ∧ whole = concat parts) ∧
    (∀ cs, passThrough (.gathered (cs.map .elements)) = .ok (.elements (concat cs))) ∧
    (∀ c c' c'' : Collection, (c.append c').append c'' = c.append (c'.append c'')) ∧
    (∀ c : Collection, Collection.empty.append c = c ∧ c.append .empty = c) ∧
    ∀ (help : Collaborators) (tree : Watching),
      tree.result help = .value (.elements (concat tree.ends)) := by
  refine ⟨?_, fun cs => passThrough_of_collections rfl, append_assoc,
    fun c => ⟨empty_append c, append_empty c⟩, Watching.result_eq⟩
  intro options elementwise rest help cs
  obtain ⟨work, works⟩ := elementwise.exists_work rest help
  refine ⟨fun parts filled each => ?_, fun whole => works.exists_parts_of_makes⟩
  obtain ⟨c, cs, rfl⟩ := List.exists_cons_of_ne_nil filled
  obtain ⟨part, others, first, -, rfl⟩ := List.forall₂_cons_left_iff.mp each
  exact works.makes_concat_of_parts each (works.makes_empty first)

/-- Walls without a model, nothing, and walls with one, whose heights are written. -/
theorem merged_part_by_part_heights :
    let node := NodeOptions.property PropertyOptions.writeHeight
    let wall := PropertyOptions.measuredWall
    let house : Model := ⟨"house", "house", .ifc4, [], .empty, none, none⟩
    ∃ whole, node.Makes .empty .unaided
        (concat [⟨[wall], none⟩, .empty, ⟨[wall], some house⟩]) whole ∧
      whole.elements.length = 2 ∧ whole.model = some house := by
  intro node wall house
  have alone (c : Collection) := congrArg Answer.ofExcept
    (PropertyOptions.writeHeight.evaluate_fed .empty c rfl)
  have elementwise : node.Elementwise := trivial
  exact ⟨_, (merged_part_by_part.1 elementwise .empty .unaided _).1 _ (List.cons_ne_nil _ _)
    (.cons (alone _) (.cons (alone _) (.cons (alone _) .nil))), rfl, rfl⟩

end BuildingWorkflow
