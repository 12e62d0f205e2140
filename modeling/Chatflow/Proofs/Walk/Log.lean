import Chatflow.Proofs.Walk.Trail

/-!
# What a run logs

The log of a run comes in stretches: one before any node has begun, one for each node of its path, and one behind the
last of them, which is lacking when the run is left by a fault (`Run.stretches`).  In a stretch the trace stays the
same, since only a node that begins changes it.

* `follow_eq`: the entries of a row of steps, step by step, each with the trace of its own node.
* `entries_run`: the entries of a run, stretch by stretch, and the trace that it leaves.
-/

namespace Chatflow

variable {σ : Type}

/-- The trace while a node is the newest one that has begun; as it was when none has. -/
def Trace.whenNewest (trace : Trace) : Option String → Trace
  | none => trace
  | some id => trace.at id

/-- What is logged while no other node begins: the id of the newest node that has begun, and the records. -/
structure Stretch where
  newest : Option String
  records : List Record

/-- The entries of a stretch of a run that began with a trace. -/
def Stretch.entries (trace : Trace) (stretch : Stretch) : List Entry :=
  (trace.whenNewest stretch.newest).stamp stretch.records

/-- The stretch of a step with a number. -/
def Step.stretch (graph : Graph) (number : Nat) (step : Step) : Stretch :=
  ⟨some step.node.id, step.allRecords graph number⟩

/-- The stretches of some steps, which are numbered from a number on. -/
def Step.stretches (graph : Graph) (number : Nat) (steps : List Step) : List Stretch :=
  (steps.zipIdx number).map fun (step, n) => step.stretch graph n

/-- The stretches of a run from a start under a cap. -/
def Run.stretches (run : Run σ) (graph : Graph) (cap : Value) (start : String) : List Stretch :=
  ⟨none, [Walk.beginning start graph.size]⟩ ::
    (Step.stretches graph 1 run.walk.steps ++
      match run.fault with
      | some _ => []
      | none => [⟨run.report.path.getLast?, run.walk.ending.records cap ++ [run.walk.finish]⟩])

/-! ## Traces -/

/-- A node that begins takes the place of the one before it. -/
theorem Trace.at_at (trace : Trace) (a b : String) : (trace.at a).at b = trace.at b := Keyed.set_set _ _ _ _

/-- When nodes begin one behind the other, the last of them counts. -/
theorem Trace.whenNewest_at (trace : Trace) (id : String) (ids : List String) :
    (trace.at id).whenNewest ids.getLast? = trace.whenNewest (id :: ids).getLast? := by
  rw [List.getLast?_cons]
  cases ids.getLast? with
  | none => rfl
  | some last => exact trace.at_at id last

/-- In the stretch of a step it does not matter which node had begun before. -/
theorem Step.entries_stretch_at (graph : Graph) (number : Nat) (step : Step) (trace : Trace) (id : String) :
    (step.stretch graph number).entries (trace.at id) = (step.stretch graph number).entries trace := by
  show ((trace.at id).at step.node.id).stamp _ = (trace.at step.node.id).stamp _
  rw [Trace.at_at]

/-! ## Entries -/

/-- **What is logged of a row of steps**: the records of each one, with the trace of its own node.  The trace behind
them is that of the last node. -/
theorem Trace.follow_eq (graph : Graph) (number : Nat) (trace : Trace) (steps : List Step) :
    Trace.follow graph number trace steps =
      ((Step.stretches graph number steps).flatMap (Stretch.entries trace),
        trace.whenNewest (steps.map (·.node.id)).getLast?) := by
  induction steps generalizing number trace with
  | nil => rfl
  | cons step steps ih =>
    have hrest : (Step.stretches graph (number + 1) steps).flatMap (Stretch.entries (trace.at step.node.id)) =
        (Step.stretches graph (number + 1) steps).flatMap (Stretch.entries trace) := by
      simp only [Step.stretches, List.flatMap_map, Step.entries_stretch_at]
    rw [follow, ih, hrest, whenNewest_at]
    rfl

/-- **What a run logs, stretch by stretch**, whatever its cap; it leaves the trace of the last node on its path. -/
theorem Walker.entries_run (walker : Walker σ) (setup : RunSetup) (trace : Trace) (start : String) (context : Context)
    (state : σ) :
    let run := walker.run setup trace start context state
    let begun := trace.begin setup.executionId setup.workflow
    run.entries = (run.stretches walker.graph setup.cap start).flatMap (Stretch.entries begun) ∧
      run.trace = begun.whenNewest run.report.path.getLast? := by
  unfold Walker.run
  dsimp only
  split
  · exact ⟨rfl, rfl⟩
  next cap _ =>
    dsimp only [Run.stretches]
    rw [Trace.follow_eq]
    refine ⟨?_, rfl⟩
    rw [List.flatMap_cons, List.flatMap_append, ← List.append_assoc]
    unfold Walk.closing
    -- What follows the steps is the closing of the walk, or nothing when a fault has escaped.
    cases ((walker.walk cap.allowed start context state).under cap).ending.escape? with
    | some fault => rfl
    | none =>
      rw [List.flatMap_singleton]
      rfl

end Chatflow
