import Chatflow.Proofs.Handler.Refusal
import Chatflow.Proofs.Walk.Replay

/-!
# Nodes that fail

A node that does not complete is the last one of its walk.  Under the standard handlers it leaves the context as the
nodes before it left it, but for the id of the node that a walk is at: `run_failure_writes_nothing`.
-/

namespace Chatflow

namespace Walker

variable {σ : Type}

/-- The end of a walk that its last node brought about. -/
def Broke (ending : Ending) : Prop := ending.name = "node_failed" ∨ ending.name = "error"

theorem Broke.kept {ending : Ending} (h : Broke ending) : ending.escape? = none := by
  cases ending with
  | escaped => simp [Broke, Ending.name] at h
  | _ => rfl

/-- A walk that its last node ended is a trail, and that node behind it. -/
theorem exists_trail_of_broke (walker : Walker σ) (n : Nat) (s : Stand σ)
    (h : Broke (walker.walkFrom n s).ending) :
    ∃ steps t node ending, walker.Trail s steps t ∧ t.pending ≠ "" ∧
      walker.graph.node? t.pending = some node ∧
      (∀ data next, (walker.handledAt t node).verdict ≠ .completed data next) ∧
      walker.walkFrom n s = (walker.lastAt t node ending).behind steps := by
  obtain ⟨steps, t, k, last, ht, -, hs, hw⟩ := exists_trail walker n s
  rw [hw] at h ⊢
  cases hs with
  | finished | missing | capped =>
    rcases h with h | h <;> simp [Walk.behind, Walk.still, Ending.name] at h
  | @failed _ _ node error hp hf hv | @raised _ _ node error hp hf hv =>
    refine ⟨steps, t, node, _, ht, hp, hf, ?_, rfl⟩
    intro data next hc
    rw [hv] at hc
    cases hc
  | escaped => cases h.kept

/-- A run that its last node ended is just its walk. -/
theorem run_of_broke (walker : Walker σ) (executionId : String) (workflow : Option String) (cap : Int) (trace : Trace)
    (start : String) (context : Context) (state : σ) :
    let run := walker.run ⟨executionId, workflow, .int cap⟩ trace start context state
    let walk := walker.walkFrom cap.toNat ⟨start, context, state⟩
    run.report.ending = "node_failed" ∨ run.report.ending = "error" →
      run.walk = walk ∧ run.report = walk.report executionId ∧ Broke walk.ending := by
  intro run walk h
  obtain ⟨-, hreport, hfault⟩ := walker.run_int executionId workflow cap trace start context state
  have hbroke : Broke (walk.under (.ofInt cap)).ending := by
    rw [show run.report = _ from hreport] at h
    exact h
  obtain ⟨hwalk, hreport, -⟩ := walker.run_of_kept (hfault.trans hbroke.kept)
  exact ⟨hwalk, hreport, Walk.under_of_kept hbroke.kept ▸ hbroke⟩

variable (nodes : List Node) (connections : List Connection) (tools : Tools) (executionId : String)
  (workflow : Option String) (cap : Int) (trace : Trace) (start : String) (context : Context)
  (services : Services)

/-- **A node that does not complete writes nothing.**  When a run ends with a failure or an error, its last node left
everything in the context as the run under a cap of just the nodes before it has it, but for the id of the node that
the run is at; and there is a cause why that node did not complete.  Whichever cause it is, the context is what it
was; and when the data of a node cannot be read, the provider is not asked and nothing is posted. -/
theorem run_failure_writes_nothing :
    let run (cap : Int) := (ofLists nodes connections tools.handlers).run ⟨executionId, workflow, .int cap⟩
      trace start context services
    let report := (run cap).report
    (report.ending = "node_failed" ∨ report.ending = "error" →
      ∃ ids id node verdict, report.path = ids ++ [id] ∧
        let cut := run ids.length
        cut.report.path = ids ∧ cut.report.ending = "max_executions" ∧
        (run cap).walk.context = { cut.walk.context with currentNode := some id } ∧
        Lists.node? nodes id = some node ∧
        tools.Refuses node { cut.walk.context with currentNode := some id } cut.walk.state verdict
          (run cap).walk.state ∧
        ∀ unread, node.config = .error unread → (run cap).walk.state = cut.walk.state) ∧
    ∀ (node : Node) (context : Context) (services : Services),
      let handled := tools.handlers.visit node context services
      (∀ verdict state, tools.Refuses node context services verdict state →
        handled.verdict = verdict ∧ handled.state = state ∧ handled.context = context) ∧
      ∀ unread, node.config = .error unread → handled.state = services ∧ handled.context = context := by
  intro run report
  refine ⟨fun h => ?_, fun node context services => ⟨fun verdict state hr => Tools.visit_of_refuses hr, ?_⟩⟩
  · obtain ⟨hwalk, hreport, hbroke⟩ := run_of_broke _ executionId workflow cap trace start context services h
    obtain ⟨steps, t, node, ending, ht, hp, hf, hv, hlast⟩ := exists_trail_of_broke _ _ _ hbroke
    have hid : node.id = t.pending := isKeyed_ofLists nodes connections tools.handlers hf
    rw [hlast] at hwalk hreport
    have hcontext : (run cap).walk.context = (handledAt _ t node).context :=
      (congrArg Walk.context hwalk).trans (Handled.settled_of_not_completed hv)
    have hstate : (run cap).walk.state = (handledAt _ t node).state := congrArg Walk.state hwalk
    let ids := steps.map (·.node.id)
    have hlength : ids.length = steps.length := List.length_map _
    obtain ⟨hids, hending, hcontext', hstate'⟩ := ht.run_length hp executionId workflow trace
    rw [← hlength] at hids hending hcontext' hstate'
    rcases tools.accounted_visit node (t.context.at t.pending) t.state with ⟨data, next, hc⟩ | ⟨hr, hc⟩
    · exact absurd hc (hv data next)
    rw [graph_ofLists, Graph.node?_ofLists] at hf
    refine ⟨ids, t.pending, node, (tools.handlers.visit node (t.context.at t.pending) t.state).verdict, ?_⟩
    rw [hcontext, hstate]
    refine ⟨?_, hids, hending, ?_, hf, ?_, ?_⟩
    · refine (congrArg Report.path hreport).trans ((Walk.path_behind _ steps).trans ?_)
      exact congrArg (ids ++ [·]) hid
    · rw [hcontext']
      exact hc
    · rw [hcontext', hstate']
      exact hr
    · intro unread hunread
      rw [hstate']
      exact hr.of_unread hunread
  · intro unread hc
    obtain ⟨-, hstate, hcontext⟩ := Tools.visit_of_refuses (.unread hc)
    exact ⟨hstate, hcontext⟩

/-- A trigger, and behind it an AI action whose prompt is a number. -/
theorem run_failure_writes_nothing_unread :
    let nodes : List Node := [{ id := "t", kind := .trigger, data := [("triggerType", .text "manual")] },
      { id := "a", kind := .aiAction, data := [("prompt", .int 3)] }]
    let connections : List Connection := [{ id := "1", source := "t", target := "a" }]
    let tools : Tools := .idle
    let run (cap : Int) := (ofLists nodes connections tools.handlers).run ⟨"x", none, .int cap⟩ [] "t"
      { user := .name "u" } {}
    (run 5).report.ending = "node_failed" ∧ (run 5).report.path = ["t", "a"] ∧
      ∃ ids id, (run 5).report.path = ids ++ [id] ∧
        (run 5).walk.context = { (run ids.length).walk.context with currentNode := some id } := by
  intro nodes connections tools run
  have hending : (run 5).report.ending = "node_failed" := rfl
  obtain ⟨hfailed, -⟩ := run_failure_writes_nothing nodes connections tools "x" none 5 [] "t"
    { user := .name "u" } {}
  obtain ⟨ids, id, _, _, hpath, _, _, hcontext, _⟩ := hfailed (Or.inl hending)
  exact ⟨hending, rfl, ids, id, hpath, hcontext⟩

end Walker

end Chatflow
