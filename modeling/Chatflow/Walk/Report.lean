import Chatflow.Journal.Entry
import Chatflow.Walk.Basic

/-!
# Reports of walks

What is told of a walk afterwards, and what is logged of it on the way.  Every record of a walk is stamped with a trace,
which names the run, the workflow and the node that began last (`Run.entries`).

The cap is any value: a number allows as many nodes as there are integers from zero below it; what is no number cannot
be compared.  A walk that has reached its cap ends there, and the cap is told in a record (`Cap.reached`).

A fault that escapes from a walk leaves its run: the log then ends where it was raised, and nobody is told the report.
-/

namespace Chatflow

/-! ## Caps -/

/-- A cap that is a number: how many nodes it allows, and how a walk ends that has reached it. -/
structure Cap where
  allowed : Nat
  reached : Ending := .capped

/-- The cap that an integer is.  One below zero that has too many digits for a text is reached at once and cannot be
told; one above zero with as many digits is beyond the reach of any walk. -/
def Cap.ofInt (n : Int) : Cap :=
  ⟨n.toNat, if n < 0 ∧ Decimal.isLong n = true then .escaped (.value .tooLong) else .capped⟩

/-- How far a walk is followed that has no cap to reach. -/
def Cap.horizon : Nat := Nat.pow 2 62

/-- The cap that a value is; nothing when it is no number.  What is not a number allows no node and counts as the end of
the graph; an infinite number is never reached, so a walk that goes beyond the horizon goes on for ever. -/
def Cap.ofValue? : Value → Option Cap
  | .bool b => some ⟨if b then 1 else 0, .capped⟩
  | .int n => some (.ofInt n)
  | .real .nan => some ⟨0, .finished⟩
  | .real (.infinite negative) => some (if negative then ⟨0, .capped⟩ else ⟨Cap.horizon, .escaped .endless⟩)
  | .real x => some ⟨x.ceil.toNat, .capped⟩
  | _ => none

theorem Cap.isSome_ofValue? (v : Value) : (Cap.ofValue? v).isSome = v.isNumeric := by
  cases v with
  | real x => cases x <;> rfl
  | _ => rfl

/-! ## Reports -/

/-- The name of an ending. -/
def Ending.name : Ending → String
  | .finished => "end"
  | .missing _ => "missing_node"
  | .failed _ => "node_failed"
  | .raised _ => "error"
  | .capped => "max_executions"
  | .escaped _ => "end"

/-- The error of an ending. -/
def Ending.error : Ending → Option String
  | .missing id => some s!"Node {id} not found"
  | .failed error => error
  | .raised fault => some fault.message
  | _ => none

/-- What escaped from a walk. -/
def Ending.escape? : Ending → Option Fault
  | .escaped fault => some fault
  | _ => none

/-- A walk under a cap: one that is allowed no more nodes ends as the cap says. -/
def Walk.under {σ : Type} (walk : Walk σ) (cap : Cap) : Walk σ :=
  match walk.ending with
  | .capped => { walk with ending := cap.reached }
  | _ => walk

/-- What is told of a walk. -/
structure Report where
  executionId : String
  path : List String
  ending : String
  error : Option String

/-- The report of a walk. -/
def Walk.report {σ : Type} (walk : Walk σ) (executionId : String) : Report :=
  { executionId, path := walk.path, ending := walk.ending.name, error := walk.ending.error }

/-- Whether a walk ran off the end of the graph. -/
def Report.isCompleted (report : Report) : Bool := report.ending == "end"

/-! ## Records -/

/-- The part of the library that logs walks. -/
def Walk.source : String := "autoflow.graph.executor"

/-- The record at the beginning of a walk. -/
def Walk.beginning (start : String) (nodes : Nat) : Record :=
  .info Walk.source s!"🚀 Starting workflow at node '{start}' ({nodes} nodes)" "workflow_started"

/-- The record at the end of a walk. -/
def Walk.finish {σ : Type} (walk : Walk σ) : Record :=
  .info Walk.source s!"🏁 Workflow finished after {walk.steps.length} step(s): {walk.ending.name}" "workflow_completed"

/-- The records of how a walk ended; the last step tells of its own failure. -/
def Ending.records (cap : Value) : Ending → List Record
  | .missing id =>
    [{ level := Record.failing, source := Walk.source, message := s!"Node {id} not found",
       event := .text "node_missing", node := .text id }]
  | .capped =>
    [{ level := Record.warning, source := Walk.source,
       message := s!"Workflow execution stopped: maximum executions reached ({cap.display})",
       event := .text "max_executions_reached" }]
  | _ => []

/-- The records behind the last node of a walk; there are none when a fault has escaped. -/
def Walk.closing {σ : Type} (walk : Walk σ) (cap : Value) : List Record :=
  match walk.ending.escape? with
  | some _ => []
  | none => walk.ending.records cap ++ [walk.finish]

/-- The record of a node that did not complete. -/
def Step.failure (step : Step) (message : String) : Record :=
  { level := Record.failing, source := Walk.source, message, event := .text "node_failed", node := .text step.node.id }

/-- The records of a route. -/
def Step.routeRecords (graph : Graph) (step : Step) : List Record :=
  match step.route with
  | .along connection missed =>
    (match missed with
      | some branch =>
        [(Record.info Walk.source
          s!"No '{branch}' branch on condition node {step.node.id}, taking first connection"
          "condition_branch_fallback").about step.node.id]
      | none => []) ++
    (if graph.has connection.target then []
      else
        [{ level := Record.warning, source := Walk.source,
           message := s!"Connection {connection.id} points at unknown node {connection.target}",
           event := .text "dangling_connection", node := .text connection.source }])
  | _ => []

/-- The records of a step with a number, counted from one. -/
def Step.allRecords (graph : Graph) (number : Nat) (step : Step) : List Record :=
  let id := step.node.id
  (Record.info Walk.source s!"▶ Step {number}: {step.node.shownName} ({step.node.kind.name})"
    "node_started").about id ::
    step.records ++
    (match step.verdict with
      | .completed _ _ =>
        (Record.info Walk.source s!"   ✓ Node {id} completed" "node_completed").about id :: step.routeRecords graph
      | .failed error => [step.failure s!"Node {id} execution failed: {Value.displayText? error}"]
      | .raised fault =>
        if step.escape.isSome then []
        else [{ step.failure s!"Error executing node {id}: {fault.message}" with fault := some fault }])

/-! ## Entries -/

/-- The entries of the steps from a number on, and the trace behind them. -/
def Trace.follow (graph : Graph) : Nat → Trace → List Step → List Entry × Trace
  | _, trace, [] => ([], trace)
  | number, trace, step :: steps =>
    let here := trace.at step.node.id
    let (entries, last) := Trace.follow graph (number + 1) here steps
    (here.stamp (step.allRecords graph number) ++ entries, last)

/-! ## Runs -/

/-- What a run needs besides a walker: its id, the workflow's id and a cap. -/
structure RunSetup where
  executionId : String
  workflow : Option String := none
  cap : Value

/-- A run: the walk, what was logged, and the trace that it left; there is a fault when one has escaped from the walk, or
when the cap cannot be compared. -/
structure Run (σ : Type) where
  walk : Walk σ
  report : Report
  entries : List Entry
  trace : Trace
  fault : Option Fault := none

/-- Runs a workflow from a node.  The cap is not looked at when there is no node to begin with. -/
def Walker.run {σ : Type} (walker : Walker σ) (setup : RunSetup) (trace : Trace) (start : String) (context : Context)
    (state : σ) : Run σ :=
  let trace := trace.begin setup.executionId setup.workflow
  let opening := trace.stamp [Walk.beginning start walker.graph.size]
  match if start.isEmpty then some (.ofInt 0) else Cap.ofValue? setup.cap with
  | none =>
    let walk : Walk σ := .still .finished context state
    { walk, report := walk.report setup.executionId, entries := opening, trace,
      fault := some (.mistyped "the cap cannot be compared") }
  | some cap =>
    let walk := (walker.walk cap.allowed start context state).under cap
    let (entries, last) := Trace.follow walker.graph 1 trace walk.steps
    { walk, report := walk.report setup.executionId, trace := last,
      entries := opening ++ entries ++ last.stamp (walk.closing setup.cap), fault := walk.ending.escape? }

end Chatflow
