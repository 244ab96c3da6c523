import BuildingWorkflow.Proofs.Run.Reordering
import BuildingWorkflow.Proofs.Run.Safety
import BuildingWorkflow.Service.Tools

/-!
The ways into the service agree.

A graph can be checked, run over the web, or run by a tool. All of them come to one verdict. A graph
that one of them refuses is refused by all, with the same issues and before anything runs. A graph
that is taken is run to its report, and the tool tells the same of it as the web does, with
identifiers in the place of elements unless the elements are asked for.
-/
namespace BuildingWorkflow

/-! ## Results told in brief -/

/-- A field of a record. -/
def Value.field? (v : Value) (name : String) : Option Value :=
  match v with
  | .map entries => entries.lookup name
  | _ => none

/-- What is told in brief for the record of a result: the record itself, unless it is one of
elements. Those are told by their identifiers, in the same order. -/
inductive Abridged (full : Value) : Value → Prop
  | whole (other : full.field? "kind" ≠ some (.text "elements")) : Abridged full full
  | elements {told : Value} {items ids : List Value}
      (kind : full.field? "kind" = some (.text "elements"))
      (listed : full.field? "elements" = some (.list items))
      (each : items.map (·.field? "id") = ids.map some)
      (named : told.field? "element_ids" = some (.list ids))
      (dropped : told.field? "elements" = none)
      (kept : ∀ name, name ≠ "elements" → name ≠ "element_ids" →
        told.field? name = full.field? name) : Abridged full told

theorem field?_brief_elements (c : Collection) (name : String) :
    (NodeResult.elements c).brief.field? name =
      (if name != "elements" then (NodeResult.elements c).record.field? name else none).or
        (if name = "element_ids" then some (.list (c.elements.map fun e => .text e.id))
        else none) := by
  have fields : (NodeResult.elements c).brief.field? name =
      (List.filter (fun entry : String × Value => entry.1 != "elements")
          (("kind", Value.text "elements") :: (NodeResult.elements c).fields) ++
        [("element_ids", Value.list (c.elements.map fun e => .text e.id))]).lookup name := rfl
  rw [fields, List.lookup_append, lookup_filterKeys (· != "elements"),
    lookup_cons_ite ("element_ids", _), List.lookup_nil]
  rfl

theorem abridged_brief (result : NodeResult) : Abridged result.record result.brief := by
  cases result with
  | elements c =>
      have unlisted : (NodeResult.elements c).record.field? "element_ids" = none := by
        cases known : c.model <;>
          simp [NodeResult.record, NodeResult.fields, Value.field?, optionalEntry, known,
            lookup_cons_ite]
      have each : (c.elements.map Element.record).map (·.field? "id") =
          (c.elements.map fun e => Value.text e.id).map some := by
        simp only [List.map_map]
        exact List.map_congr_left fun e _ => rfl
      refine .elements rfl rfl each ?_ ?_ ?_
      · rw [field?_brief_elements, unlisted]
        rfl
      · rw [field?_brief_elements]
        rfl
      · intro name notElements notIds
        rw [field?_brief_elements, if_neg notIds, Option.or_none, if_pos (bne_iff_ne.mpr notElements)]
  | aggregate _ _ | value _ | text _ _ _ | binary _ _ _ | failed _ _ | blocked _ | cancelled =>
      exact .whole (by simp [NodeResult.record, NodeResult.kindName, Value.field?])

/-! ## One verdict -/

theorem Workflow.ofDocument_eq_error {document : Value} {fault : Fault}
    (unread : Draft.ofDocument document = .error fault) :
    Workflow.ofDocument document = .error fault := by
  rw [Workflow.ofDocument, unread]
  rfl

theorem Workflow.issues_of_ofDocument {document : Value} {fault : Fault}
    (refused : Workflow.ofDocument document = .error fault) :
    ∃ issues, fault.issues? = some issues := by
  cases read : Draft.ofDocument document with
  | ok draft =>
      rw [ofDocument_eq read] at refused
      obtain ⟨issues, listed, -⟩ := Draft.issues_of_validate refused
      exact ⟨issues, listed⟩
  | error unread =>
      rw [ofDocument_eq_error read] at refused
      cases refused
      unfold Draft.ofDocument at read
      split at read
      · cases read
      · cases read
        exact ⟨_, rfl⟩

namespace Engine

/-- The end of a run of the graph of a document. -/
def runDocument (engine : Engine) (document : Value) (cancellation : Cancellation) :
    Except Fault (RunEnding × RunState) := do
  engine.runDraft (← Draft.ofDocument document) cancellation

theorem runDocument_eq (engine : Engine) (document : Value) (cancellation : Cancellation) :
    engine.runDocument document cancellation =
      (Workflow.ofDocument document).map fun w => engine.run w.plan cancellation := by
  cases read : Draft.ofDocument document with
  | ok draft =>
      rw [Workflow.ofDocument_eq read, runDocument, read]
      change engine.runDraft draft cancellation = _
      rw [runDraft]
      cases draft.validate <;> rfl
  | error unread =>
      rw [Workflow.ofDocument_eq_error read, runDocument, read]
      rfl

theorem order_of_run {engine : Engine} {p : Plan} {cancellation : Cancellation} {report : Report}
    {s : RunState} (h : engine.run p cancellation = (.reported report, s)) :
    report.order = p.order := by
  unfold run at h
  split at h
  · cases h
    rfl
  · have ended := congrArg Prod.fst h
    simp only [RunState.ending] at ended
    repeat' split at ended
    all_goals cases ended
    all_goals rfl

end Engine

namespace Service

variable (s : Service)

/-- The registry and the writer of native files always answer. -/
theorem answering : s.engine.help.Answering where
  provider _ := Answer.ofExcept_ne_silent _
  writer _ configured _ := by
    cases configured
    exact Answer.ofExcept_ne_silent _

theorem execute_eq (document : Value) :
    s.execute document = (s.engine.runDocument document .never).map Prod.fst := by
  rw [execute, Engine.runDocument]
  cases Draft.ofDocument document with
  | error fault => rfl
  | ok draft =>
      change (do return (← s.engine.runDraft draft .never).1) =
        (s.engine.runDraft draft .never).map Prod.fst
      cases s.engine.runDraft draft .never <;> rfl

theorem exists_report (slots : 0 < s.settings.maxConcurrency) {document : Value} {w : Workflow}
    (taken : Workflow.ofDocument document = .ok w) :
    ∃ report, s.execute document = .ok (.reported report) ∧ report.order = w.plan.order := by
  obtain ⟨draft, -, valid⟩ := bind_eq_ok taken
  obtain ⟨ending, state, run, -, ended⟩ :=
    s.engine.exists_ending (Draft.ordered_of_validate valid) .never
  have executed : s.execute document = .ok ending := by
    rw [execute_eq, Engine.runDocument_eq, taken]
    exact congrArg (fun e : RunEnding × RunState => Except.ok e.1) run
  obtain ⟨report, rfl⟩ | ⟨-, -, starved⟩ := ended
  · exact ⟨report, executed, Engine.order_of_run run⟩
  · exact absurd ⟨by simpa [engine] using slots, s.answering⟩ starved

theorem execute_eq_error {document : Value} {fault : Fault}
    (refused : Workflow.ofDocument document = .error fault) : s.execute document = .error fault := by
  rw [execute_eq, Engine.runDocument_eq, refused]
  rfl

/-- Whether a tool is asked for elements in full. -/
def asksElements (arguments : Bag) : Bool :=
  (arguments.lookup "include_elements").elim false Value.truthy

theorem callTool_run {arguments : Bag} {reply : ToolReply}
    (replied : s.runTool arguments = .ok reply) :
    (s.callTool Tool.runWorkflow.name arguments).1 = reply := by
  have called : (s.runTool arguments).map (·, s) = .ok (reply, s) := by
    rw [replied]
    rfl
  have load : Tool.runWorkflow.name ≠ Tool.loadModel.name := by decide
  have models : Tool.runWorkflow.name ≠ Tool.listModels.name := by decide
  have kinds : Tool.runWorkflow.name ≠ Tool.listNodeKinds.name := by decide
  simp only [callTool, if_neg load, if_neg models, if_neg kinds, if_pos, called]

section Asked

variable {s} {arguments : Bag} {document : Value} (asked : arguments.lookup "graph" = some document)

include asked

theorem argument_graph : argument arguments "graph" = pure document := by
  rw [argument, asked]
  rfl

theorem runTool_of_error {fault : Fault} (refused : s.execute document = .error fault)
    (known : fault.issues?.isSome) :
    s.runTool arguments = .ok (.data (.map (status "invalid" ::
      BuildingWorkflow.rejection fault))) := by
  rw [runTool, argument_graph asked, pure_bind, refused]
  exact if_pos known

theorem runTool_of_reported {report : Report}
    (reported : s.execute document = .ok (.reported report)) :
    s.runTool arguments = .ok (.data (.map (
      status (if report.succeeded then "success" else "partial") ::
        report.record (if asksElements arguments then NodeResult.record else NodeResult.brief)))) := by
  rw [runTool, argument_graph asked, pure_bind, reported]
  rfl

end Asked

/-- What a check answers for a graph that is taken. -/
def valid (order : Value) : Reply := .body (.map [("valid", .bool true), ("order", order)])

/-- A graph that every entrance refuses for the same reasons. No engine comes to a run of it. -/
structure RefusedAlike (document : Value) (arguments : Bag) (content : Value) : Prop where
  checked : validate document = .rejected 422 content
  ran : s.run document = .rejected 422 content
  told : ∃ bag : Bag, content = .map bag ∧ (∃ issues, bag.lookup "issues" = some (.list issues)) ∧
    (s.callTool Tool.runWorkflow.name arguments).1 = .data (.map (status "invalid" :: bag))
  idle : ∀ (engine : Engine) (cancellation : Cancellation) (ended : RunEnding × RunState),
    engine.runDocument document cancellation ≠ .ok ended

/-- How a result is told: by the same record, or in brief. -/
structure ToldAs (inFull : Bool) (entry told : String × Value) : Prop where
  name : told.1 = entry.1
  result : if inFull then told.2 = entry.2 else Abridged entry.2 told.2

/-- What is answered for a graph that every entrance takes: a record over the web, and one by the
tool that tells the same. -/
structure AnsweredAlike (document : Value) (arguments : Bag) (order : Value) (answer told : Bag) :
    Prop where
  checked : validate document = valid order
  ran : s.run document = .body (.map answer)
  called : (s.callTool Tool.runWorkflow.name arguments).1 = .data (.map told)
  orders : answer.lookup "order" = some order ∧ told.lookup "order" = some order
  success : told.lookup "status" = some (.text "success") ↔
    answer.lookup "cancelled" = some (.bool false) ∧ answer.lookup "failures" = some (.list [])
  failures : ∃ names, answer.lookup "failures" = some (.list names) ∧
    told.lookup "failures" = some (.list names)
  results : ∃ full brief, answer.lookup "results" = some (.map full) ∧
    told.lookup "results" = some (.map brief) ∧
    List.Forall₂ (ToldAs (asksElements arguments)) full brief

theorem status_success_iff (report : Report) (told : List (String × Value)) :
    (status (if report.succeeded then "success" else "partial") :: told).lookup "status" =
        some (.text "success") ↔
      (report.record NodeResult.record).lookup "cancelled" = some (.bool false) ∧
        (report.record NodeResult.record).lookup "failures" = some (.list []) := by
  have failures : (report.record NodeResult.record).lookup "failures" =
      some (.list (report.results.failures.mergeSort.map Value.text)) := rfl
  have cancelled : (report.record NodeResult.record).lookup "cancelled" =
      some (.bool report.cancelled) := rfl
  have none : report.results.failures.mergeSort = [] ↔ report.results.failures = [] := by
    rw [← List.length_eq_zero_iff, List.length_mergeSort, List.length_eq_zero_iff]
  rw [failures, cancelled]
  simp only [Option.some.injEq, Value.list.injEq, Value.bool.injEq, List.map_eq_nil_iff, none]
  simp [status, Report.succeeded]

theorem toldAs_entries (inFull : Bool) (results : Store) :
    List.Forall₂ (ToldAs inFull) (results.map NodeResult.record).entries
      (results.map (if inFull then NodeResult.record else NodeResult.brief)).entries := by
  have entries (write : NodeResult → Value) : (results.map write).entries =
      results.entries.map fun entry => (entry.1, write entry.2) := rfl
  rw [entries, entries, List.forall₂_map_left_iff, List.forall₂_map_right_iff,
    List.forall₂_same]
  intro entry _
  cases inFull with
  | true => exact ⟨rfl, rfl⟩
  | false => exact ⟨rfl, abridged_brief entry.2⟩

section Verdict

variable {s} {document : Value} {arguments : Bag} (asked : arguments.lookup "graph" = some document)

include asked

theorem refusedAlike {fault : Fault} (refused : Workflow.ofDocument document = .error fault) :
    s.RefusedAlike document arguments (.map (BuildingWorkflow.rejection fault)) := by
  obtain ⟨issues, listed⟩ := Workflow.issues_of_ofDocument refused
  have known : fault.issues?.isSome := by rw [listed]; rfl
  refine ⟨?_, ?_, ⟨_, rfl, ⟨_, rfl⟩, ?_⟩, ?_⟩
  · rw [validate, refused]
    exact if_pos known
  · rw [run, execute_eq_error s refused]
    exact if_pos known
  · exact callTool_run s (runTool_of_error asked (execute_eq_error s refused) known)
  · intro engine cancellation ended
    rw [Engine.runDocument_eq, refused]
    exact nofun

theorem answeredAlike (slots : 0 < s.settings.maxConcurrency) {w : Workflow}
    (taken : Workflow.ofDocument document = .ok w) :
    ∃ answer told, s.AnsweredAlike document arguments (Fault.texts w.plan.order) answer told := by
  obtain ⟨report, reported, order⟩ := s.exists_report slots taken
  refine ⟨report.record NodeResult.record, status (if report.succeeded then "success" else "partial") ::
    report.record (if asksElements arguments then NodeResult.record else NodeResult.brief), ?_, ?_, ?_,
    ⟨?_, ?_⟩, ?_, ⟨_, rfl, rfl⟩, ⟨_, _, rfl, rfl, ?_⟩⟩
  · rw [validate, taken]
    rfl
  · rw [run, reported]
  · exact callTool_run s (runTool_of_reported asked reported)
  · rw [← order]
    rfl
  · rw [← order]
    rfl
  · exact status_success_iff report _
  · exact toldAs_entries _ report.results

end Verdict

/-- All entrances come to one verdict on a document. A check finds it valid exactly when a run is
not refused; where either is refused, all are, and a tool that is asked to run a valid document
tells what a run over the web answers. -/
theorem entrances_agree (slots : 0 < s.settings.maxConcurrency) (document : Value)
    (arguments : Bag) (asked : arguments.lookup "graph" = some document) :
    ((∃ order, validate document = valid order) ↔
      ∀ content, s.run document ≠ .rejected 422 content) ∧
    (∀ content, validate document = .rejected 422 content ∨ s.run document = .rejected 422 content →
      s.RefusedAlike document arguments content) ∧
    ∀ order, validate document = valid order →
      ∃ answer told, s.AnsweredAlike document arguments order answer told := by
  cases verdict : Workflow.ofDocument document with
  | error fault =>
      have refused := refusedAlike (s := s) asked verdict
      refine ⟨⟨fun ⟨order, checked⟩ => ?_, fun taken => absurd refused.ran (taken _)⟩, ?_,
        fun order checked => ?_⟩
      · cases refused.checked.symm.trans checked
      · rintro content (checked | ran)
        · cases refused.checked.symm.trans checked
          exact refused
        · cases refused.ran.symm.trans ran
          exact refused
      · cases refused.checked.symm.trans checked
  | ok w =>
      obtain ⟨answer, told, alike⟩ := answeredAlike asked slots verdict
      refine ⟨⟨fun _ content ran => ?_, fun _ => ⟨_, alike.checked⟩⟩, ?_, fun order checked => ?_⟩
      · cases alike.ran.symm.trans ran
      · rintro content (checked | ran)
        · cases alike.checked.symm.trans checked
        · cases alike.ran.symm.trans ran
      · cases alike.checked.symm.trans checked
        exact ⟨answer, told, alike⟩

theorem entrances_agree_watched :
    let idle : Service := ⟨.usual, ⟨.empty, .empty⟩, fun _ => .empty, fun _ => .empty⟩
    let arguments : Bag := [("graph", .map (Bag.watched id)), ("include_elements", .bool true)]
    ∃ answer told, idle.AnsweredAlike (.map (Bag.watched id)) arguments
      (Fault.texts ["model", "view"]) answer told := by
  intro idle arguments
  have read : Draft.ofDocument (.map (Bag.watched id)) = .ok Draft.watched := rfl
  have order : Workflow.watched.order = ["model", "view"] := by decide +kernel
  have checked : validate (.map (Bag.watched id)) = valid (Fault.texts ["model", "view"]) := by
    rw [validate, Workflow.ofDocument_eq read, Draft.validate_watched, ← order]
    rfl
  exact (idle.entrances_agree (by decide) _ arguments rfl).2.2 _ checked

end Service

end BuildingWorkflow
