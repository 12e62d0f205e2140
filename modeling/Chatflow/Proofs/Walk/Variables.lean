import Chatflow.Proofs.Handler.Completion
import Chatflow.Proofs.Keyed
import Chatflow.Proofs.Walk.Between

/-!
# What a walk does to the variables

A completed node puts values under a few names only, which its data settle (`NodeConfig.writes`); a node that does not
complete puts nothing.  So a run changes just the variables that its completed steps name (`run_variables_frame`).
-/

namespace Chatflow

/-! ## Nodes -/

/-- The names under which a completed node puts values. -/
def NodeConfig.writes : NodeConfig → List String
  | .trigger c =>
    match c.triggerType with
    | some "manual" => ["triggered"]
    | some "message" => ["message", "timestamp"]
    | some "schedule" => ["scheduledTime"]
    | _ => []
  | .aiAction _ => ["aiResponse", "prompt"]
  | .condition _ => ["conditionResult", "conditionMet"]
  | .output c => (if c.outputType = some "variable" then [c.storedUnder] else []) ++ ["output", "outputType"]

/-- The names under which a node puts values when it completes. -/
def Node.writes (node : Node) : List String :=
  match node.config with
  | .ok config => config.writes
  | .error _ => []

namespace Tools

variable {tools : Tools} {node : Node} {context : Context} {services : Services}

/-- The data of a trigger. -/
theorem keys_of_triggerVerdict {c : TriggerConfig} {data : Fields}
    (h : tools.triggerVerdict c context services = done data) : data.keys = (NodeConfig.trigger c).writes := by
  unfold triggerVerdict at h
  split at h
  · rename_i hk
    cases h
    simp only [NodeConfig.writes, hk]
    rfl
  · rename_i hk
    split at h
    · split at h
      · cases h
        simp only [NodeConfig.writes, hk]
        rfl
      · cases h
    · cases h
  · rename_i hk
    cases h
    simp only [NodeConfig.writes, hk]
    rfl
  · cases h

/-- What an output puts among the variables besides its data. -/
theorem Places.puts {c : OutputConfig} {content : String} {left : Context} {state : Services}
    (h : tools.Places context services c content left state) :
    Keyed.Puts (if c.outputType = some "variable" then [c.storedUnder] else []) context.vars left.vars := by
  cases h with
  | said hk | sent hk =>
    rw [if_neg (by rw [hk]; decide)]
    exact .refl _
  | logged _ hk =>
    rw [if_neg hk]
    exact .refl _
  | stored hk =>
    rw [if_pos hk]
    exact Keyed.puts_set _ _ _

theorem puts_data (context : Context) {data : Fields} {names : List String} (h : data.keys = names) :
    Keyed.Puts names context.vars (context.merge (some data)).vars := by
  rw [← h]
  exact Keyed.puts_merge _ _

/-- A completed node puts values under its names. -/
theorem Does.puts {data : Fields} {left : Context} {state : Services}
    (h : tools.Does node context services data left state) :
    Keyed.Puts node.writes context.vars (left.merge (some data)).vars := by
  cases h with
  | @triggered c _ hc hverdict =>
    simp only [Node.writes, hc]
    exact puts_data context (keys_of_triggerVerdict hverdict)
  | answered hc | decided hc =>
    simp only [Node.writes, hc]
    exact puts_data context rfl
  | put hc _ hplaced =>
    simp only [Node.writes, hc]
    exact hplaced.puts.append (puts_data _ rfl)

end Tools

/-! ## Steps -/

/-- The names under which a step puts values: those of its node if it was completed. -/
def Step.writes (step : Step) : List String := if step.isCompleted then step.node.writes else []

theorem Step.mem_writes_iff {step : Step} {name : String} :
    name ∈ step.writes ↔ step.isCompleted = true ∧ ∃ config, step.node.config = .ok config ∧ name ∈ config.writes := by
  unfold writes Node.writes
  cases step.isCompleted <;> cases step.node.config <;> simp

/-- **A step puts values under its names, and under no others.** -/
theorem Step.Between.puts {nodes : List Node} {tools : Tools} {earlier later : Walk Services} {step : Step}
    (h : step.Between nodes tools.handlers earlier later) :
    Keyed.Puts step.writes earlier.context.vars later.context.vars := by
  have hverdict := h.verdict
  have hbefore : step.before.vars = earlier.context.vars := by
    rw [h.before]
    rfl
  rw [h.context, ← hbefore]
  rcases Tools.visit_cases tools step.node step.before earlier.state with ⟨data, hdone, hdoes⟩ | ⟨hrefuses, hcontext⟩
  · have hcompleted : step.isCompleted = true := isCompleted_iff.mpr ⟨_, _, hverdict.trans hdone⟩
    rw [writes, if_pos hcompleted, Handled.settled, hdone]
    exact hdoes.puts
  · have hnot : ∀ data next, (tools.handlers.visit step.node step.before earlier.state).verdict ≠ .completed data next :=
      fun _ _ => hrefuses.ne_completed
    have hfailed : ¬step.isCompleted = true := by
      rw [isCompleted_iff, hverdict]
      rintro ⟨data, next, hcompleted⟩
      exact hnot data next hcompleted
    rw [writes, if_neg hfailed, Handled.settled_of_not_completed hnot, hcontext]
    exact .refl _

/-! ## Walks and runs -/

namespace Walker

variable (nodes : List Node) (connections : List Connection) (tools : Tools)

/-- **A walk puts values under the names of its steps, and under no others.** -/
theorem walkFrom_puts (n : Nat) (s : Stand Services) :
    Keyed.Puts (((ofLists nodes connections tools.handlers).walkFrom n s).steps.flatMap Step.writes) s.context.vars
      ((ofLists nodes connections tools.handlers).walkFrom n s).context.vars := by
  induction n, s using walkFrom_induction (ofLists nodes connections tools.handlers) with
  | stops hs =>
    rcases hs.still_or_one with ⟨hsteps, hcontext, -⟩ | ⟨node, hp, hf, hsteps, hone⟩
    · rw [hsteps, hcontext]
      exact .refl _
    · have hstep := (between_stepAt hp hf).puts
      rw [hone] at hstep
      rw [hsteps, List.flatMap_singleton]
      exact hstep
  | @completes n s node hc ih =>
    have hstep := (between_stepAt hc.pending hc.found).puts
    rw [(walkFrom_one hc.pending hc.found).1] at hstep
    exact hstep.append ih

variable (executionId : String) (workflow : Option String) (cap : Int) (trace : Trace) (start : String)
  (context : Context) (services : Services)

/-- **The frame of the variables.**  A run never takes a variable away: the names that were there stay in their order,
and the new ones come behind them, in the order in which its steps put them first.  It puts values only under the
names of the nodes that it completed, which their data settle; every other variable has at the end the value that it
had at the start. -/
theorem run_variables_frame :
    let run (cap : Int) := (ofLists nodes connections tools.handlers).run ⟨executionId, workflow, .int cap⟩
      trace start context services
    let steps := (run cap).walk.steps
    let left := (run cap).walk.context
    let written := steps.flatMap Step.writes
    (run cap).report.path = steps.map (·.node.id) ∧
      (∀ (i : Nat) (step : Step), steps[i]? = some step →
        step.Between nodes tools.handlers (run i).walk (run (i + 1)).walk) ∧
      left.vars.keys = context.vars.keys ++ (written.removeAll context.vars.keys).eraseDups ∧
      (∀ name, name ∉ written → left.vars.get? name = context.vars.get? name) ∧
      ∀ name, name ∈ written ↔ ∃ step ∈ steps, step.isCompleted = true ∧
        ∃ config, step.node.config = .ok config ∧ name ∈ config.writes := by
  intro run steps left written
  have hputs : Keyed.Puts written context.vars left.vars := by
    obtain ⟨n, hrun⟩ := (ofLists nodes connections tools.handlers).run_walk ⟨executionId, workflow, .int cap⟩ start
    obtain ⟨hsteps, hcontext, -⟩ := hrun trace context services
    have hwalk := walkFrom_puts nodes connections tools n ⟨start, context, services⟩
    rw [← hsteps, ← hcontext] at hwalk
    exact hwalk
  refine ⟨?_, fun i step hstep => ?_, hputs.keys, hputs.others, fun name => ?_⟩
  · exact path_run _ _ trace start context services
  · exact run_between executionId workflow cap trace start context services hstep
  · simp only [written, List.mem_flatMap, Step.mem_writes_iff]

end Walker

end Chatflow
