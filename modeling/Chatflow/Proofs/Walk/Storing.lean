import Chatflow.Proofs.Template.Token
import Chatflow.Proofs.Walk.Variables

/-!
# What outputs store

An output of type `variable` puts its text under a name, and then its data go over the variables, as those of every
node do: its text once more as `output`, and its type as `outputType`.  So the text can be read behind it under every
name but `outputType`, where the type of the output is found (`run_variable_stored_iff`).
-/

namespace Chatflow

namespace Tools

variable {tools : Tools} {node : Node} {context : Context} {services : Services}

/-- The data of an output, over the variables: its type under `outputType`, its text under `output`. -/
theorem get?_merge_output (context : Context) (content : String) (type : Option String) (name : String) :
    (context.merge (some [("output", .text content), ("outputType", .ofText? type)])).vars.get? name =
      if "outputType" = name then some (.ofText? type)
      else if "output" = name then some (.text content) else context.vars.get? name := by
  show ((context.vars.set "output" (.text content)).set "outputType" (.ofText? type)).get? name = _
  rw [Keyed.get?_set, Keyed.get?_set]

/-- What stands behind a completed output under the name that it stores its text under. -/
theorem Does.stored {data : Fields} {left : Context} {state : Services} {c : OutputConfig}
    (h : tools.Does node context services data left state) (hc : node.config = .ok (.output c))
    (hk : c.outputType = some "variable") :
    ∃ content, (tools.fill (c.content.getD "") context services).result = .ok content ∧
      (left.merge (some data)).vars.get? c.storedUnder =
        some (.text (if c.storedUnder = "outputType" then "variable" else content)) := by
  cases h with
  | triggered hother | answered hother | decided hother =>
    rw [hc] at hother
    cases hother
  | @put read content left state hread hfilled hplaced =>
    rw [hc] at hread
    obtain rfl := NodeConfig.output.inj (Except.ok.inj hread)
    refine ⟨content, hfilled, ?_⟩
    cases hplaced with
    | said hother | sent hother =>
      rw [hk] at hother
      exact absurd hother (by decide)
    | logged _ hother => exact absurd hk hother
    | stored =>
      rw [get?_merge_output, hk, Context.setVariable, Keyed.get?_set, if_pos rfl]
      by_cases htype : c.storedUnder = "outputType"
      · rw [if_pos htype.symm, if_pos htype]
        rfl
      · rw [if_neg (Ne.symm htype), if_neg htype, ite_self]

end Tools

/-- What a step that completed an output of type `variable` leaves under the name of the variable. -/
theorem Step.Between.stored {nodes : List Node} {tools : Tools} {earlier later : Walk Services} {step : Step}
    (h : step.Between nodes tools.handlers earlier later) (hdone : step.isCompleted = true) {c : OutputConfig}
    (hc : step.node.config = .ok (.output c)) (hk : c.outputType = some "variable") :
    ∃ content, (tools.fill (c.content.getD "") step.before earlier.state).result = .ok content ∧
      later.context.vars.get? c.storedUnder =
        some (.text (if c.storedUnder = "outputType" then "variable" else content)) := by
  obtain ⟨data, next, hverdict⟩ := isCompleted_iff.mp hdone
  rw [h.verdict] at hverdict
  rcases Tools.visit_cases tools step.node step.before earlier.state with ⟨fields, hfields, hdoes⟩ | ⟨hrefuses, -⟩
  · obtain ⟨content, hfilled, hget⟩ := hdoes.stored hc hk
    refine ⟨content, hfilled, ?_⟩
    rw [h.context, Handled.settled, hfields]
    exact hget
  · exact absurd hverdict hrefuses.ne_completed

namespace Walker

/-- **A stored text can be read behind its node under every name but `outputType`.**  When a run has completed an output
of type `variable`, the variable of its name holds the text of the output, filled in with what the run had when it came
to the node, unless the name is `outputType`: then it holds the type of the output.  The next node of the run is reached
with just these variables. -/
theorem run_variable_stored_iff (nodes : List Node) (connections : List Connection) (tools : Tools)
    (executionId : String) (workflow : Option String) (cap : Int) (trace : Trace) (start : String) (context : Context)
    (services : Services) {i : Nat} {step : Step} {c : OutputConfig}
    (hstep : ((ofLists nodes connections tools.handlers).run ⟨executionId, workflow, .int cap⟩ trace start context
      services).walk.steps[i]? = some step)
    (hdone : step.isCompleted = true) (hc : step.node.config = .ok (.output c))
    (hk : c.outputType = some "variable") :
    let run (cap : Int) := (ofLists nodes connections tools.handlers).run ⟨executionId, workflow, .int cap⟩
      trace start context services
    let reached := (run i).walk.context.at step.node.id
    let left := (run (i + 1)).walk.context
    ∃ content, (tools.fill (c.content.getD "") reached (run i).walk.state).result = .ok content ∧
      left.vars.get? c.storedUnder =
        some (.text (if c.storedUnder = "outputType" then "variable" else content)) ∧
      (left.vars.get? c.storedUnder = some (.text content) ↔ (c.storedUnder = "outputType" → content = "variable")) ∧
      ∀ next, (run cap).walk.steps[i + 1]? = some next → next.before.vars = left.vars := by
  intro run reached left
  have hbetween := run_between executionId workflow cap trace start context services hstep
  obtain ⟨content, hfilled, hget⟩ := hbetween.stored hdone hc hk
  rw [hbetween.before] at hfilled
  refine ⟨content, hfilled, hget, ?_, fun next hnext => ?_⟩
  · have hleft : left.vars.get? c.storedUnder = _ := hget
    rw [hleft, Option.some.injEq, Value.text.injEq]
    by_cases htype : c.storedUnder = "outputType"
    · rw [if_pos htype]
      exact ⟨fun h _ => h.symm, fun h => (h htype).symm⟩
    · rw [if_neg htype]
      exact ⟨fun _ h => absurd h htype, fun _ => rfl⟩
  · rw [(run_between executionId workflow cap trace start context services hnext).before]
    rfl

/-- A run through an output that stores a text under a name, and one that says what then is under that name. -/
def storingRun (name : String) (cap : Int) : Run Services :=
  let stored : Fields := [("outputType", .text "variable"), ("variableName", .text name), ("content", .text "kept")]
  let told : Fields := [("outputType", .text "message"), ("content", .text (Template.placeholderOf name))]
  let nodes : List Node := [{ id := "s", kind := .output, data := stored }, { id := "m", kind := .output, data := told }]
  (ofLists nodes [{ id := "1", source := "s", target := "m" }] Tools.idle.handlers).run ⟨"x", none, .int cap⟩ [] "s"
    { user := .number 1 } {}

/-- Under another name the text is there, for the next node too. -/
theorem run_variable_stored_iff_topic : ∃ step c next, (storingRun "topic" 2).walk.steps = [step, next] ∧
    step.isCompleted = true ∧ step.node.config = .ok (.output c) ∧ c.outputType = some "variable" ∧
    c.storedUnder = "topic" ∧ (storingRun "topic" 1).walk.context.vars.get? "topic" = some (.text "kept") ∧
    next.before.vars.get? "topic" = some (.text "kept") := by
  obtain ⟨content, hfilled, -, hiff, hnext⟩ := run_variable_stored_iff _ _ _ "x" none 2 [] "s" { user := .number 1 } {}
    (show (storingRun "topic" 2).walk.steps[0]? = some _ from rfl) rfl rfl rfl
  obtain rfl := Except.ok.inj hfilled
  have hleft : (storingRun "topic" 1).walk.context.vars.get? "topic" = some (.text "kept") :=
    hiff.mpr fun h => absurd h (by decide)
  refine ⟨_, _, _, rfl, rfl, rfl, rfl, rfl, hleft, ?_⟩
  rw [hnext _ rfl]
  exact hleft

/-- **Under the name `outputType` a stored text is lost**: the next node finds the type of the output there. -/
theorem storingRun_loses : (storingRun "outputType" 2).report.path = ["s", "m"] ∧
    (storingRun "outputType" 1).walk.context.vars.get? "outputType" = some (.text "variable") ∧
    (storingRun "outputType" 2).walk.context.messages.map (·.content) = ["variable"] :=
  ⟨by decide +kernel, rfl, by decide +kernel⟩

end Walker

end Chatflow
