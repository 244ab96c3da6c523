import BuildingWorkflow.Proofs.Graph.Inlets
import BuildingWorkflow.Proofs.Graph.Order
import BuildingWorkflow.Proofs.Node.Alike
import BuildingWorkflow.Proofs.Node.Valued
import Mathlib.Data.List.Find

/-!
What results rest on.

The result of a node rests on those of its predecessors alone: it names one of them that has no
value, or it comes from evaluating the node on what they feed it. So results that came about in
different orders agree, as far as evaluations do.
-/
namespace BuildingWorkflow

namespace Store

theorem ok_iff (store : Store) (id : String) :
    store.ok id ↔ ∃ result, store.find? id = some result ∧ result.isError = false := by
  cases found : store.find? id with
  | none => simp [ok, found]
  | some result => simp [ok, found]

theorem ok_congr {store store' : Store} {id : String} (h : store.find? id = store'.find? id) :
    store.ok id = store'.ok id := by
  rw [ok, ok, h]

theorem mem_keys_of_ok {store : Store} {id : String} (h : store.ok id) : id ∈ store.keys := by
  obtain ⟨result, found, -⟩ := (ok_iff store id).mp h
  exact OrderedMap.mem_keys_of_find? found

end Store

section Obstacles

variable {p : Plan} {store store' : Store} {id : String}

theorem obstacle?_congr
    (h : ∀ feeder ∈ p.predecessors id, store.find? feeder = store'.find? feeder) :
    RunState.obstacle? p store id = RunState.obstacle? p store' id := by
  refine List.find?_congr fun feeder feeds => ?_
  rw [Store.ok_congr (h feeder feeds)]

theorem obstacle?_eq_none_iff :
    RunState.obstacle? p store id = none ↔ ∀ feeder ∈ p.predecessors id, store.ok feeder := by
  simp [RunState.obstacle?]

theorem obstacle?_spec {obstacle : String} (h : RunState.obstacle? p store id = some obstacle) :
    obstacle ∈ p.predecessors id ∧ ¬ store.ok obstacle ∧
      ∀ feeder ∈ p.predecessors id, ¬ store.ok feeder → obstacle ≤ feeder := by
  refine ⟨List.mem_of_find?_eq_some h, by simpa using List.find?_some h, fun feeder feeds bad => ?_⟩
  exact le_of_find?_sortedNames h ((mem_sortedNames _ _).mp feeds) (by simpa using bad)

end Obstacles

/-- All predecessors of a node have values, and these inputs are what they feed it. -/
structure Fed (p : Plan) (store : Store) (id : String) (inputs : Inputs) : Prop where
  clear : ∀ feeder ∈ p.predecessors id, store.ok feeder
  gathered : p.inputsFor id store = .ok inputs

/-- How the evaluations of nodes may end. -/
abbrev Account := Node → Inputs → NodeResult → Prop

/-- What the result of a node rests on. -/
inductive Earned (p : Plan) (ends : Account) (store : Store) (id : String) : NodeResult → Prop
  | blocked {obstacle : String} (found : RunState.obstacle? p store id = some obstacle) :
      Earned p ends store id (.blocked obstacle)
  | evaluated {node : Node} {inputs : Inputs} {result : NodeResult}
      (known : p.nodes.find? id = some node) (fed : Fed p store id inputs)
      (ended : ends node inputs result) : Earned p ends store id result

theorem Earned.eq_blocked {p : Plan} {ends : Account} {store : Store} {id obstacle : String}
    {result : NodeResult} (found : RunState.obstacle? p store id = some obstacle)
    (earned : Earned p ends store id result) : result = .blocked obstacle := by
  cases earned with
  | blocked found' => rw [Option.some.inj (found'.symm.trans found)]
  | evaluated known fed ended =>
      rw [obstacle?_eq_none_iff.mpr fed.clear] at found
      cases found

section Congruence

variable {p : Plan} {ends : Account} {store store' : Store} {id : String}
  (same : ∀ feeder ∈ p.predecessors id, store.find? feeder = store'.find? feeder)

include same

theorem Fed.congr {inputs : Inputs} (fed : Fed p store id inputs) : Fed p store' id inputs where
  clear feeder feeds := Store.ok_congr (same feeder feeds) ▸ fed.clear feeder feeds
  gathered := Plan.inputsFor_congr same ▸ fed.gathered

theorem Earned.congr {result : NodeResult} (earned : Earned p ends store id result) :
    Earned p ends store' id result := by
  cases earned with
  | blocked found => exact .blocked (obstacle?_congr same ▸ found)
  | evaluated known fed ended => exact .evaluated known (fed.congr same) ended

/-- What two results of one node rest on makes them the same. -/
theorem Earned.agree (functional : ∀ node inputs r r', ends node inputs r → ends node inputs r' →
    r = r') {result result' : NodeResult} (earned : Earned p ends store id result)
    (earned' : Earned p ends store' id result') : result = result' := by
  cases earned.congr same with
  | blocked found => exact (earned'.eq_blocked found).symm
  | evaluated known fed ended =>
      cases earned' with
      | blocked found =>
          rw [obstacle?_eq_none_iff.mpr fed.clear] at found
          cases found
      | evaluated known' fed' ended' =>
          cases Option.some.inj (known.symm.trans known')
          cases Except.ok.inj (fed.gathered.symm.trans fed'.gathered)
          exact functional _ _ _ _ ended ended'

end Congruence

/-- Evaluations end alike on inputs that are alike. -/
def Account.Regular (ends : Account) : Prop := ∀ node inputs inputs', Inputs.Alike inputs inputs' →
  ∀ result, ends node inputs result → ends node inputs' result

section Feeding

variable {p p' : Plan} {ends : Account} {store store' : Store} {id : String}
  (same : (∀ feeder ∈ p.predecessors id, store.ok feeder) → ∀ inlet,
    (p.sourcesAt id inlet).filterMap store.find? = (p'.sourcesAt id inlet).filterMap store'.find?)

include same

/-- The inputs of a node are alike in two plans that bring the same results to its inlets. -/
theorem Fed.alike {inputs : Inputs} (fed : Fed p store id inputs)
    (clear : ∀ feeder ∈ p'.predecessors id, store'.ok feeder) :
    ∃ inputs', Fed p' store' id inputs' ∧ inputs.Alike inputs' := by
  obtain ⟨inputs', gathered⟩ :=
    Plan.exists_inputsFor fun feeder feeds => Store.mem_keys_of_ok (clear feeder feeds)
  refine ⟨inputs', ⟨clear, gathered⟩, fun inlet => ?_⟩
  rw [Plan.results_inputsFor fed.gathered, Plan.results_inputsFor gathered, same fed.clear]

theorem Earned.alike (regular : ends.Regular) (node : p'.nodes.find? id = p.nodes.find? id)
    (obstacles : RunState.obstacle? p' store' id = RunState.obstacle? p store id)
    {result : NodeResult} (earned : Earned p ends store id result) :
    Earned p' ends store' id result := by
  cases earned with
  | blocked found => exact .blocked (obstacles.trans found)
  | evaluated known fed ended =>
      have clear := obstacle?_eq_none_iff.mp (obstacles.trans (obstacle?_eq_none_iff.mpr fed.clear))
      obtain ⟨inputs', fed', alike⟩ := fed.alike same clear
      exact .evaluated (node.trans known) fed' (regular _ _ _ alike _ ended)

end Feeding

theorem Fed.clean {p : Plan} {store : Store} {id : String} {inputs : Inputs}
    (fed : Fed p store id inputs) : inputs.Clean := by
  intro inlet result member
  obtain ⟨feeder, feeds, found⟩ := Plan.mem_results_inputsFor fed.gathered member
  obtain ⟨value, found', valued⟩ := (Store.ok_iff store feeder).mp (fed.clear feeder feeds)
  cases Option.some.inj (found.symm.trans found')
  exact valued

/-- The nodes with a result are nodes of the plan, the predecessors of one have results too, and
every result rests on them. -/
structure Justified (p : Plan) (ends : Account) (store : Store) : Prop where
  known : ∀ id ∈ store.keys, id ∈ p.nodes.keys
  closed : ∀ id ∈ store.keys, ∀ feeder ∈ p.predecessors id, feeder ∈ store.keys
  earned : ∀ id result, store.find? id = some result → Earned p ends store id result

namespace Justified

variable {p : Plan} {ends : Account} {store store' : Store}

theorem empty (p : Plan) (ends : Account) : Justified p ends .empty where
  known := nofun
  closed := nofun
  earned := nofun

theorem insert {id : String} {result : NodeResult} (h : Justified p ends store)
    (fresh : id ∉ store.keys) (known : id ∈ p.nodes.keys)
    (ready : ∀ feeder ∈ p.predecessors id, feeder ∈ store.keys)
    (earned : Earned p ends store id result) : Justified p ends (store.insert id result) := by
  have keys : (store.insert id result).keys = store.keys ++ [id] :=
    OrderedMap.keys_insert_of_not_mem fresh result
  have ready' : ∀ other ∈ (store.insert id result).keys, ∀ feeder ∈ p.predecessors other,
      feeder ∈ store.keys := by
    intro other member
    rw [keys, List.mem_append, List.mem_singleton] at member
    obtain member | rfl := member
    · exact h.closed other member
    · exact ready
  refine ⟨?_, fun other member feeder feeds => ?_, fun other result' found => ?_⟩
  · rw [keys]
    intro other member
    cases List.mem_append.mp member with
    | inl member => exact h.known other member
    | inr member => exact List.mem_singleton.mp member ▸ known
  · rw [keys]
    exact List.mem_append_left _ (ready' other member feeder feeds)
  · have same : ∀ feeder ∈ p.predecessors other,
        store.find? feeder = (store.insert id result).find? feeder := by
      intro feeder feeds
      have before := ready' other (OrderedMap.mem_keys_of_find? found) feeder feeds
      have distinct : feeder ≠ id := fun e => fresh (e ▸ before)
      rw [OrderedMap.find?_insert, if_neg distinct]
    rw [OrderedMap.find?_insert] at found
    split at found
    · rename_i isNew
      subst isNew
      cases found
      exact earned.congr same
    · exact (h.earned other result' found).congr same

theorem mem_of_path (h : Justified p ends store) {above below : String}
    (path : Relation.TransGen p.Feeds above below) (recorded : below ∈ store.keys) :
    above ∈ store.keys := by
  induction path with
  | single feeds => exact h.closed _ recorded _ feeds
  | tail _ feeds ih => exact ih (h.closed _ recorded _ feeds)

/-- Results that rest on evaluations which always end alike are the same, wherever there are two. -/
theorem agree (o : p.Ordered) (functional : ∀ node inputs r r', ends node inputs r →
    ends node inputs r' → r = r') (h : Justified p ends store) (h' : Justified p ends store') :
    ∀ id result result', store.find? id = some result → store'.find? id = some result' →
      result = result' := by
  -- On what both results of a node rest is the same, as it is for those that feed the node.
  refine o.induction fun id ih result result' found found' => ?_
  have same : ∀ feeder ∈ p.predecessors id, store.find? feeder = store'.find? feeder := by
    intro feeder feeds
    obtain ⟨r, fed⟩ := OrderedMap.exists_find?
      (h.closed id (OrderedMap.mem_keys_of_find? found) feeder feeds)
    obtain ⟨r', fed'⟩ := OrderedMap.exists_find?
      (h'.closed id (OrderedMap.mem_keys_of_find? found') feeder feeds)
    rw [fed, fed', ih feeder feeds r r' fed fed']
  exact (h.earned id result found).agree same functional (h'.earned id result' found')

/-- With results for all nodes, the two have the same ones. -/
theorem find?_eq (o : p.Ordered) (functional : ∀ node inputs r r', ends node inputs r →
    ends node inputs r' → r = r') (h : Justified p ends store) (h' : Justified p ends store')
    (all : ∀ id ∈ p.nodes.keys, id ∈ store.keys) (all' : ∀ id ∈ p.nodes.keys, id ∈ store'.keys)
    (id : String) : store.find? id = store'.find? id := by
  by_cases known : id ∈ p.nodes.keys
  · obtain ⟨result, found⟩ := OrderedMap.exists_find? (all id known)
    obtain ⟨result', found'⟩ := OrderedMap.exists_find? (all' id known)
    rw [found, found', h.agree o functional h' id result result' found found']
  · rw [(OrderedMap.find?_eq_none_iff store id).mpr fun member => known (h.known id member),
      (OrderedMap.find?_eq_none_iff store' id).mpr fun member => known (h'.known id member)]

theorem keys_perm (h : Justified p ends store) (all : ∀ id ∈ p.nodes.keys, id ∈ store.keys) :
    store.keys.Perm p.nodes.keys :=
  (List.perm_ext_iff_of_nodup store.nodup_keys p.nodes.nodup_keys).mpr fun id =>
    ⟨h.known id, all id⟩

end Justified

end BuildingWorkflow
