import Chatflow.Proofs.Walk.Following
import Chatflow.Proofs.Walk.Log

/-!
# What traces tell of their runs

A trace is handed on from run to run, and a run that begins only puts something into it: its own id, and the id of its
workflow if it has one; each node that begins then puts its id.  So what a run does not set is told by the newest
earlier run that did set it (`Trace.Left`), and every record of the run is stamped with that.

* `get?_left`: what a row of runs has left in the trace.
* `names_whenNewest`: what the trace tells in each stretch of a run.
* `run_names_iff`: when a trace tells of no other run than its own.
-/

namespace Chatflow

variable {σ : Type}

/-- The id under which logs know the workflow of a run; an empty one counts as none. -/
def RunSetup.named (setup : RunSetup) : Option String := setup.workflow.filter (· ≠ "")

/-- What a run leaves to the traces of later ones: the id of its workflow, and those of the nodes that began. -/
structure Past where
  workflow : Option String
  begun : List String

namespace Past

/-- The id of the last workflow of some runs. -/
def lastWorkflow (earlier : List Past) : Option String := (earlier.filterMap (·.workflow)).getLast?

/-- The id of the last node that began in some runs. -/
def lastNode (earlier : List Past) : Option String := (earlier.flatMap (·.begun)).getLast?

end Past

namespace Trace

/-- The traces that a row of runs leaves, whatever graphs and handlers they have. -/
inductive Left : List Past → Trace → Prop
  | nothing : Left [] []
  | behind {τ : Type} {earlier : List Past} {trace : Trace} (left : Left earlier trace) (walker : Walker τ)
      (setup : RunSetup) (start : String) (context : Context) (state : τ) :
      Left (earlier ++ [⟨setup.named, (walker.run setup trace start context state).report.path⟩])
        (walker.run setup trace start context state).trace

/-- A trace tells the id of a run, of a workflow if there is one, and of a node if there is one. -/
structure Names (trace : Trace) (executionId : String) (workflow node : Option String) : Prop where
  execution : trace.get? "execution_id" = some (.text executionId)
  workflow : trace.get? "workflow_id" = workflow.map .text
  node : trace.get? "node_id" = node.map .text

/-! ## What a run puts into a trace -/

variable (trace : Trace)

theorem get?_begin (setup : RunSetup) :
    let begun := trace.begin setup.executionId setup.workflow
    begun.get? "execution_id" = some (.text setup.executionId) ∧
      begun.get? "workflow_id" = (setup.named.map .text).or (trace.get? "workflow_id") ∧
      begun.get? "node_id" = trace.get? "node_id" := by
  unfold begin RunSetup.named
  cases setup.workflow with
  | none => simp [Keyed.get?_set]
  | some id => by_cases h : id = "" <;> simp [h, Option.filter_some, Keyed.get?_set]

theorem get?_whenNewest (newest : Option String) :
    (trace.whenNewest newest).get? "execution_id" = trace.get? "execution_id" ∧
      (trace.whenNewest newest).get? "workflow_id" = trace.get? "workflow_id" ∧
      (trace.whenNewest newest).get? "node_id" = (newest.map .text).or (trace.get? "node_id") := by
  cases newest <;> simp [whenNewest, Trace.at, Keyed.get?_set]

variable {trace}

/-- **What a row of runs leaves in the trace**: the last workflow that had an id, and the last node that began. -/
theorem get?_left {earlier : List Past} (h : Left earlier trace) :
    trace.get? "workflow_id" = (Past.lastWorkflow earlier).map .text ∧
      trace.get? "node_id" = (Past.lastNode earlier).map .text := by
  induction h with
  | nothing => exact ⟨rfl, rfl⟩
  | @behind τ earlier trace left walker setup start context state ih =>
    obtain ⟨hworkflow, hnode⟩ := ih
    rw [(walker.entries_run setup trace start context state).2]
    obtain ⟨-, hbegunWorkflow, hbegunNode⟩ := trace.get?_begin setup
    obtain ⟨-, hnewestWorkflow, hnewestNode⟩ := (trace.begin setup.executionId setup.workflow).get?_whenNewest
      (walker.run setup trace start context state).report.path.getLast?
    rw [hnewestWorkflow, hnewestNode, hbegunWorkflow, hbegunNode, hworkflow, hnode]
    unfold Past.lastWorkflow Past.lastNode
    refine ⟨?_, ?_⟩
    · cases setup.named <;> simp
    · simp [List.getLast?_append, Option.map_or]

/-- **What the trace tells while a node is the newest one of a run**: the run, and besides its own workflow and node,
where it has none, the last ones of earlier runs. -/
theorem names_whenNewest {earlier : List Past} (h : Left earlier trace) (setup : RunSetup) (newest : Option String) :
    ((trace.begin setup.executionId setup.workflow).whenNewest newest).Names setup.executionId
      (setup.named.or (Past.lastWorkflow earlier)) (newest.or (Past.lastNode earlier)) := by
  obtain ⟨hworkflow, hnode⟩ := get?_left h
  obtain ⟨hexecution, hbegunWorkflow, hbegunNode⟩ := trace.get?_begin setup
  obtain ⟨hnewestExecution, hnewestWorkflow, hnewestNode⟩ :=
    (trace.begin setup.executionId setup.workflow).get?_whenNewest newest
  refine ⟨hnewestExecution.trans hexecution, ?_, ?_⟩
  · rw [hnewestWorkflow, hbegunWorkflow, hworkflow, Option.map_or]
  · rw [hnewestNode, hbegunNode, hnode, Option.map_or]

end Trace

/-! ## Runs -/

/-- What a trace tells is determined by it. -/
theorem Trace.Names.unique {trace : Trace} {executionId : String} {workflow node workflow' node' : Option String}
    (h : trace.Names executionId workflow node) (h' : trace.Names executionId workflow' node') :
    workflow = workflow' ∧ node = node' := by
  have htext : Function.Injective (Option.map Value.text) := Option.map_injective fun _ _ => Value.text.inj
  exact ⟨htext (h.workflow.symm.trans h'.workflow), htext (h.node.symm.trans h'.node)⟩

theorem Past.lastWorkflow_eq_none_iff {earlier : List Past} :
    lastWorkflow earlier = none ↔ ∀ past ∈ earlier, past.workflow = none := by
  rw [lastWorkflow, List.getLast?_eq_none_iff, List.filterMap_eq_nil_iff]

theorem Past.lastNode_eq_none_iff {earlier : List Past} :
    lastNode earlier = none ↔ ∀ past ∈ earlier, past.begun = [] := by
  rw [lastNode, List.getLast?_eq_none_iff, List.flatMap_eq_nil_iff]

/-- The newest nodes in the stretches of a run: none at first, then each one of its path, and behind them the last one.
A run that is left by a fault has no stretch behind them. -/
theorem Run.map_newest_stretches (walker : Walker σ) (setup : RunSetup) (trace : Trace) (start : String)
    (context : Context) (state : σ) :
    let run := walker.run setup trace start context state
    (run.stretches walker.graph setup.cap start).map (·.newest) =
      none :: (run.report.path.map some ++ if run.fault.isSome then [] else [run.report.path.getLast?]) := by
  intro run
  have hpath : run.report.path = run.walk.steps.map (·.node.id) := walker.path_run setup trace start context state
  have hsteps : (Step.stretches walker.graph 1 run.walk.steps).map (·.newest) = run.report.path.map some := by
    rw [hpath, List.map_map, Step.stretches, List.map_map]
    show List.map ((some ∘ fun step : Step => step.node.id) ∘ Prod.fst) _ = _
    rw [← List.map_map, List.zipIdx_map_fst]
  unfold stretches
  rw [List.map_cons, List.map_append, hsteps]
  cases run.fault <;> rfl

namespace Walker

/-- **A trace tells of its own run alone only where earlier runs left nothing.**  The records of a run come in stretches:
one before a node has begun, one for each node on its path, and one behind them unless the run is left by a fault.  In
each of them the trace tells the id of the run; of the workflow and of the newest node it tells those of the run itself,
and where the run has none, the last ones of the earlier runs; and so does the trace that the run leaves.  So it tells of
the run alone, all along, exactly when no node has begun in an earlier run, and the run has a workflow or none of the
earlier ones had. -/
theorem run_names_iff {earlier : List Past} {trace : Trace} (left : Trace.Left earlier trace) (walker : Walker σ)
    (setup : RunSetup) (start : String) (context : Context) (state : σ) :
    let run := walker.run setup trace start context state
    let begun := trace.begin setup.executionId setup.workflow
    let stretches := run.stretches walker.graph setup.cap start
    let path := run.report.path
    run.entries = stretches.flatMap (Stretch.entries begun) ∧
      stretches.map (·.newest) = none :: (path.map some ++ if run.fault.isSome then [] else [path.getLast?]) ∧
      (∀ stretch ∈ stretches, (begun.whenNewest stretch.newest).Names setup.executionId
        (setup.named.or (Past.lastWorkflow earlier)) (stretch.newest.or (Past.lastNode earlier))) ∧
      run.trace.Names setup.executionId (setup.named.or (Past.lastWorkflow earlier))
        (path.getLast?.or (Past.lastNode earlier)) ∧
      ((∀ stretch ∈ stretches, (begun.whenNewest stretch.newest).Names setup.executionId setup.named stretch.newest) ↔
        (∀ past ∈ earlier, past.begun = []) ∧ (setup.named ≠ none ∨ ∀ past ∈ earlier, past.workflow = none)) := by
  intro run begun stretches path
  obtain ⟨hentries, htrace⟩ := walker.entries_run setup trace start context state
  have hnames : ∀ newest : Option String, (begun.whenNewest newest).Names setup.executionId
      (setup.named.or (Past.lastWorkflow earlier)) (newest.or (Past.lastNode earlier)) := Trace.names_whenNewest left setup
  refine ⟨hentries, Run.map_newest_stretches walker setup trace start context state, fun stretch _ => hnames _, ?_, ?_⟩
  · rw [show run.trace = _ from htrace]
    exact hnames _
  · rw [← Past.lastNode_eq_none_iff, ← Past.lastWorkflow_eq_none_iff]
    constructor
    · -- In the first stretch no node has begun, so both parts can be read off there.
      intro hown
      obtain ⟨hworkflow, hnode⟩ := (hnames none).unique (hown _ List.mem_cons_self)
      refine ⟨hnode, ?_⟩
      cases hnamed : setup.named with
      | some id => exact Or.inl (Option.some_ne_none id)
      | none =>
        rw [hnamed] at hworkflow
        exact Or.inr hworkflow
    · rintro ⟨hnode, hworkflow⟩ stretch -
      have h := hnames stretch.newest
      rw [hnode, Option.or_none] at h
      rcases hworkflow with hnamed | hnone
      · rwa [Option.or_of_isSome (Option.isSome_iff_ne_none.mpr hnamed)] at h
      · rwa [hnone, Option.or_none] at h

/-- Behind a run of an output, one that misses its node. -/
theorem run_names_iff_missing :
    let tools : Tools := .idle
    let walker := ofLists twoNodes (leadingTo "") tools.handlers
    let first := walker.run ⟨"x", some "w", .int 5⟩ [] "t" { user := .number 1 } {}
    let second := walker.run ⟨"y", none, .int 5⟩ first.trace "gone" { user := .number 1 } {}
    Trace.Left [⟨some "w", ["t", "o"]⟩] first.trace ∧ second.trace.Names "y" (some "w") (some "o") := by
  intro tools walker first second
  have left : Trace.Left [⟨some "w", ["t", "o"]⟩] first.trace :=
    Trace.Left.nothing.behind walker ⟨"x", some "w", .int 5⟩ "t" { user := .number 1 } {}
  obtain ⟨-, -, -, hnames, -⟩ := run_names_iff left walker ⟨"y", none, .int 5⟩ "gone" { user := .number 1 } {}
  exact ⟨left, hnames⟩

/-- **A run is logged under the node and the workflow of an earlier one.**  A first run leaves its workflow and its last
node in the trace.  A second one has no workflow and begins no node; its records tell both nevertheless, and so does the
trace that it leaves. -/
theorem run_names_earlier :
    let tools : Tools := .idle
    let walker := ofLists twoNodes (leadingTo "") tools.handlers
    let first := walker.run ⟨"x", some "w", .int 5⟩ [] "t" { user := .number 1 } {}
    let second := walker.run ⟨"y", none, .int 5⟩ first.trace "gone" { user := .number 1 } {}
    second.report.path = [] ∧ second.entries.length = 3 ∧
      (∀ entry ∈ second.entries, entry.trace.Names "y" (some "w") (some "o") ∧ ¬ entry.trace.Names "y" none none) ∧
      ¬ second.trace.Names "y" none none := by
  intro tools walker first second
  have hnames : second.trace.Names "y" (some "w") (some "o") := ⟨rfl, rfl, rfl⟩
  have hothers : ¬ second.trace.Names "y" none none := fun h => Option.some_ne_none _ (hnames.unique h).1
  have htraces : second.entries.map (·.trace) = List.replicate 3 second.trace := rfl
  refine ⟨rfl, rfl, fun entry hentry => ?_, hothers⟩
  have htrace : entry.trace = second.trace := List.eq_of_mem_replicate (htraces ▸ List.mem_map_of_mem hentry)
  exact htrace ▸ ⟨hnames, hothers⟩

end Walker

end Chatflow
