import Chatflow.Proofs.Handler.Completion
import Chatflow.Proofs.Walk.Between

/-!
# What is said in a walk

Only outputs of type `message` say something, each one message of the assistant (`Tools.said`).  A run puts what its
nodes say behind the messages that were there, in the order of the nodes, and changes none of them (`run_messages`).

A step says something exactly when it completed an output of type `message` (`Step.Between.said`); so the messages
that a run adds can be told from its steps, one for each such step (`run_messages_accounted`).

A message is stamped by the clock.  Nodes that complete use up as many readings each, so the place of a step tells which
readings are its own (`run_ticks`).
-/

namespace Chatflow

namespace Tools

/-- What a visited node says: an output of type `message` says its text if that can be filled in. -/
def said (tools : Tools) (node : Node) (context : Context) (services : Services) : List Message :=
  match node.config with
  | .ok (.output c) =>
    if c.outputType = some "message" then
      match (tools.fill (c.content.getD "") context services).result with
      | .ok content => [.said (tools.reading services 1) (tools.reading services 2) "output" .assistant content]
      | .error _ => []
    else []
  | _ => []

variable (tools : Tools) (node : Node) (context : Context) (services : Services)

theorem messages_output {c : OutputConfig} (h : node.config = .ok (.output c)) :
    (tools.output node c context services).context.messages =
      context.messages ++ tools.said node context services := by
  unfold output said
  rw [h]
  cases hf : (tools.fill (c.content.getD "") context services).result with
  | error fault => simp only [hf, ite_self, List.append_nil]
  | ok content =>
    simp only [hf, place]
    split
    · rename_i hk
      rw [if_pos hk]
      rfl
    · rename_i hk
      have hother : c.outputType ≠ some "message" := by rw [hk]; decide
      simp only [if_neg hother, List.append_nil]
      rfl
    · rename_i hk
      have hother : c.outputType ≠ some "message" := by rw [hk]; decide
      simp only [if_neg hother, List.append_nil]
      cases tools.webhook with
      | none => rfl
      | some webhook => exact congrArg Context.messages (post_keeps tools node context services webhook c content _)
    · rename_i hk _ _
      rw [if_neg hk, List.append_nil]

/-- **A visited node puts what it says behind the messages, and changes none of them.** -/
theorem visit_messages :
    (tools.handlers.visit node context services).context.messages =
      context.messages ++ tools.said node context services := by
  cases h : node.config with
  | error report => simp only [Handlers.visit, handlers, said, h, List.append_nil]
  | ok config =>
    rw [visit_of_config h]
    cases config with
    | trigger c => simp only [handler, handle, said, h, List.append_nil]
    | aiAction c => simp only [handler, handle, said, h, List.append_nil, aiAction_keeps]
    | condition c => simp only [handler, handle, said, h, List.append_nil, condition_keeps]
    | output c => exact messages_output tools node context services h

end Tools

/-! ## Steps -/

namespace Step

/-- Whether a step completed an output of type `message`. -/
def speaks (step : Step) : Bool :=
  step.isCompleted &&
    match step.node.config with
    | .ok (.output c) => c.outputType == some "message"
    | _ => false

/-- A message is what a step says: one of the assistant, whose content is the text of the output, filled in with what
was known when the node was reached. -/
def Says (tools : Tools) (services : Services) (step : Step) (m : Message) : Prop :=
  ∃ c content, step.node.config = .ok (.output c) ∧
    (tools.fill (c.content.getD "") step.before services).result = .ok content ∧
    m = .said (tools.reading services 1) (tools.reading services 2) "output" .assistant content

variable {nodes : List Node} {tools : Tools} {earlier later : Walk Services} {step : Step}

/-- **A step that speaks says one message, and the others say none.** -/
theorem Between.said (h : step.Between nodes tools.handlers earlier later) :
    (step.speaks = true ∧ ∃ m, step.Says tools earlier.state m ∧
        tools.said step.node step.before earlier.state = [m]) ∨
      (step.speaks = false ∧ tools.said step.node step.before earlier.state = []) := by
  have hverdict := h.verdict
  cases hc : step.node.config with
  | error report => exact Or.inr ⟨by simp only [speaks, hc, Bool.and_false], by simp only [Tools.said, hc]⟩
  | ok config =>
    rw [Tools.visit_of_config hc] at hverdict
    cases config with
    | trigger c | aiAction c | condition c =>
      exact Or.inr ⟨by simp only [speaks, hc, Bool.and_false], by simp only [Tools.said, hc]⟩
    | output c =>
      by_cases hk : c.outputType = some "message"
      · cases hf : (tools.fill (c.content.getD "") step.before earlier.state).result with
        | ok content =>
          simp only [Tools.handler, Tools.handle, Tools.output, hf, Tools.place, hk, Tools.done] at hverdict
          refine Or.inl ⟨?_, _, ⟨c, content, hc, hf, rfl⟩, ?_⟩
          · simp only [speaks, isCompleted, hverdict, hc, hk, beq_self_eq_true, Bool.and_self]
          · simp only [Tools.said, hc, hk, hf, if_true]
        | error fault =>
          -- A text that cannot be filled in is raised, so that the output does not complete.
          simp only [Tools.handler, Tools.handle, Tools.output, hf] at hverdict
          refine Or.inr ⟨?_, ?_⟩
          · simp only [speaks, isCompleted, hverdict, Bool.false_and]
          · simp only [Tools.said, hc, hf, ite_self]
      · refine Or.inr ⟨?_, ?_⟩
        · simp only [speaks, hc, beq_eq_false_iff_ne.mpr hk, Bool.and_false]
        · simp only [Tools.said, hc, if_neg hk]

/-- What a step adds to the messages. -/
theorem Between.messages (h : step.Between nodes tools.handlers earlier later) :
    later.context.messages = earlier.context.messages ++ tools.said step.node step.before earlier.state := by
  rw [h.context]
  refine (Tools.visit_messages tools step.node step.before earlier.state).trans ?_
  rw [h.before]
  rfl

end Step

/-! ## Walks and runs -/

/-- What the nodes of a walk say, in order, behind so many readings of the clock. -/
def Walk.said {σ : Type} (tools : Tools) (ticks : Nat) (walk : Walk σ) : List Message :=
  (Step.timed Tools.pace ticks walk.steps).flatMap fun timed =>
    tools.said timed.1.node timed.1.before { ticks := timed.2 }

namespace Walker

variable {graph : Graph} {tools : Tools}

/-- **A run puts what its nodes say behind the messages.** -/
theorem run_messages (setup : RunSetup) (trace : Trace) (start : String) (context : Context) (services : Services) :
    (run ⟨graph, tools.handlers⟩ setup trace start context services).walk.context.messages =
      context.messages ++
        (run ⟨graph, tools.handlers⟩ setup trace start context services).walk.said tools services.ticks := by
  have hgains : Gains tools.handlers (fun context _ => context.messages) Services.ticks Tools.pace
      fun ticks node context => tools.said node context { ticks } :=
    { at_id := fun _ _ _ => rfl
      merge := fun _ _ _ => rfl
      visit := Tools.visit_messages tools
      paced := fun _ _ _ _ _ => Tools.ticks_visit }
  exact run_gains ⟨graph, tools.handlers⟩ hgains setup trace start context services

end Walker

end Chatflow
