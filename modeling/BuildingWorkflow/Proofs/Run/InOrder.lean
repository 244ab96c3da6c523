import BuildingWorkflow.Proofs.Run.Progress

/-!
Nodes evaluated one after another.

The plainest run takes the nodes in the order of the plan, one at a time, and knows no tasks, slots
or turns. Its results are those that the results of any other run are compared with.
-/
namespace BuildingWorkflow
namespace Plan

/-- The result of a node after those of its predecessors: the node is blocked by the least of them
without a value, or it is evaluated on what they feed it. -/
def resultAfter (help : Collaborators) (p : Plan) (store : Store) (id : String) :
    Option NodeResult :=
  match leastName? ((p.predecessors id).filter fun feeder => !store.ok feeder) with
  | some obstacle => some (.blocked obstacle)
  | none =>
      match p.nodes.find? id, p.inputsFor id store with
      | some node, .ok inputs => help.result? node inputs
      | _, _ => none

def evaluateNext (help : Collaborators) (p : Plan) (store : Store) (id : String) : Store :=
  match p.resultAfter help store id with
  | some result => store.insert id result
  | none => store

/-- The results when the nodes are evaluated one after another in the order of the plan. -/
def inOrder (help : Collaborators) (p : Plan) : Store := p.order.foldl (p.evaluateNext help) .empty

variable {help : Collaborators} {p : Plan} {store : Store} {id : String}

/-- The first predecessor without a value is the least one. -/
theorem leastName?_eq_obstacle? (p : Plan) (store : Store) (id : String) :
    leastName? ((p.predecessors id).filter fun feeder => !store.ok feeder) =
      RunState.obstacle? p store id := by
  cases found : RunState.obstacle? p store id with
  | none =>
      rw [leastName?_eq_none_iff, List.filter_eq_nil_iff]
      simpa using obstacle?_eq_none_iff.mp found
  | some obstacle =>
      obtain ⟨feeds, bad, least⟩ := obstacle?_spec found
      have candidate : obstacle ∈ (p.predecessors id).filter fun feeder => !store.ok feeder :=
        List.mem_filter.mpr ⟨feeds, by simpa using bad⟩
      cases least' : leastName? ((p.predecessors id).filter fun feeder => !store.ok feeder) with
      | none =>
          rw [leastName?_eq_none_iff] at least'
          rw [least'] at candidate
          cases candidate
      | some other =>
          obtain ⟨member, below⟩ := leastName?_spec least'
          obtain ⟨feeds', bad'⟩ := List.mem_filter.mp member
          exact congrArg some (le_antisymm (below obstacle candidate)
            (least other feeds' (by simpa using bad')))

/-- The ends of evaluations without a clock when the collaborators answer by the request alone. -/
def answeredEnd (help : Collaborators) : Account := fun node inputs result =>
  help.result? node inputs = some result

theorem exists_resultAfter (answering : help.Answering) (known : id ∈ p.nodes.keys)
    (ready : ∀ feeder ∈ p.predecessors id, feeder ∈ store.keys) :
    ∃ result, p.resultAfter help store id = some result ∧
      Earned p (answeredEnd help) store id result := by
  rw [resultAfter, leastName?_eq_obstacle?]
  cases found : RunState.obstacle? p store id with
  | some obstacle => exact ⟨_, rfl, .blocked found⟩
  | none =>
      obtain ⟨node, isNode⟩ := OrderedMap.exists_find? known
      obtain ⟨inputs, gathered⟩ := exists_inputsFor ready
      obtain ⟨result, answer⟩ := answering.exists_result? node inputs
      simp only [isNode, gathered]
      exact ⟨result, answer, .evaluated isNode ⟨obstacle?_eq_none_iff.mp found, gathered⟩ answer⟩

theorem inOrder_spec (o : p.Ordered) (answering : help.Answering) :
    (p.inOrder help).keys = p.order ∧ Justified p (answeredEnd help) (p.inOrder help) := by
  -- The results so far are those of the nodes before, and so whatever feeds the next is there.
  refine p.order_induction (P := fun before =>
    (before.foldl (p.evaluateNext help) .empty).keys = before ∧
      Justified p (answeredEnd help) (before.foldl (p.evaluateNext help) .empty))
    ⟨rfl, .empty p _⟩ ?_
  rintro before last after split ⟨keys, justified⟩
  rw [List.foldl_append, List.foldl_cons, List.foldl_nil]
  generalize before.foldl (p.evaluateNext help) .empty = store at keys justified ⊢
  have known : last ∈ p.nodes.keys :=
    (o.mem_order last).mp (split ▸ List.mem_append_right _ List.mem_cons_self)
  have ready : ∀ feeder ∈ p.predecessors last, feeder ∈ store.keys := fun feeder feeds =>
    keys ▸ o.earlier before last after split feeder feeds
  have fresh : last ∉ store.keys := by
    have nodup := o.nodup_order
    rw [split, List.nodup_append'] at nodup
    exact fun member => nodup.2.2 (keys ▸ member) List.mem_cons_self
  obtain ⟨result, found, earned⟩ := exists_resultAfter answering known ready
  simp only [evaluateNext, found]
  exact ⟨by rw [OrderedMap.keys_insert_of_not_mem fresh, keys],
    justified.insert fresh known ready earned⟩

theorem keys_inOrder (o : p.Ordered) (answering : help.Answering) :
    (p.inOrder help).keys = p.order := (inOrder_spec o answering).1

theorem justified_inOrder (o : p.Ordered) (answering : help.Answering) :
    Justified p (answeredEnd help) (p.inOrder help) := (inOrder_spec o answering).2

end Plan

theorem Engine.ownEnd_of_untimed {engine : Engine} (untimed : engine.timeout = none) :
    engine.ownEnd = Plan.answeredEnd engine.help := by
  funext node inputs result
  rw [ownEnd, Plan.answeredEnd, result?, untimed, Option.map_none, Option.or_none]

/-- A run in which all tasks are over has the results of the nodes taken one after another. -/
theorem find?_eq_inOrder {p : Plan} {help : Collaborators} {store : Store} (o : p.Ordered)
    (answering : help.Answering) (justified : Justified p (Plan.answeredEnd help) store)
    (all : ∀ id ∈ p.nodes.keys, id ∈ store.keys) (id : String) :
    store.find? id = (p.inOrder help).find? id := by
  refine justified.find?_eq o (fun _ _ _ _ h h' => Option.some.inj (h.symm.trans h'))
    (Plan.justified_inOrder o answering) all (fun id known => ?_) id
  rw [Plan.keys_inOrder o answering]
  exact (o.mem_order id).mpr known

end BuildingWorkflow
