import Chatflow.Proofs.Handler.Frame
import Chatflow.Proofs.Handler.Refusal

/-!
# Nodes that complete

What the standard handlers do with a node that they complete.  Each way is a rule of `Does`, with the data of the node,
the context that its handler leaves, and what was asked and posted by then; where an output puts its text is told by
`Places`.

`visit_cases` takes a visit apart: a node completes by one of these rules, or there is a cause why not (`Refuses`) and
the context is what it was.
-/

namespace Chatflow

/-- The name of the variable into which an output of type `variable` puts its text. -/
def OutputConfig.storedUnder (c : OutputConfig) : String :=
  let name := c.variableName.getD ""
  if name.isEmpty then "output" else name

namespace Tools

variable (tools : Tools) (node : Node) (context : Context) (services : Services)

/-- Where an output puts a text, with the context and the services behind it. -/
inductive Places (c : OutputConfig) (content : String) : Context → Services → Prop
  | said (kind : c.outputType = some "message") :
      Places c content
        (context.append (.said (tools.reading services 1) (tools.reading services 2) "output" .assistant content)) services
  | stored (kind : c.outputType = some "variable") :
      Places c content (context.setVariable c.storedUnder (.text content)) services
  | sent (kind : c.outputType = some "webhook") (requests : List HttpRequest) :
      Places c content context { services with posted := services.posted ++ requests }
  | logged (silent : c.outputType ≠ some "message") (stays : c.outputType ≠ some "variable") :
      Places c content context services

/-- What a completed node does: its data, and the context and the services behind its handler, when its readings of the
clock are used up. -/
inductive Does : Fields → Context → Services → Prop
  | triggered {c : TriggerConfig} {data : Fields} (config : node.config = .ok (.trigger c))
      (verdict : tools.triggerVerdict c context services = done data) : Does data context (services.later pace)
  | answered {c : AiActionConfig} {provider : Provider} {text : String} {content : Value}
      (config : node.config = .ok (.aiAction c)) (prompt : c.prompt.getD "" ≠ "")
      (given : tools.provider = some provider)
      (filled : (tools.fill (c.prompt.getD "") context services).result = .ok text)
      (answer : (provider.generate services.asked (promptOf c context text)).result = .ok content) :
      Does [("aiResponse", content), ("prompt", .text text)] context
        (Services.later { services with asked := services.asked ++ [promptOf c context text] } pace)
  | decided {c : ConditionConfig} {met : Bool} (config : node.config = .ok (.condition c))
      (decided : (tools.decide c context.vars).result = .ok met) :
      Does [("conditionResult", .bool met), ("conditionMet", .bool met)] context (services.later pace)
  | put {c : OutputConfig} {content : String} {left : Context} {state : Services}
      (config : node.config = .ok (.output c))
      (filled : (tools.fill (c.content.getD "") context services).result = .ok content)
      (placed : Places tools context services c content left state) :
      Does [("output", .text content), ("outputType", .ofText? c.outputType)] left (state.later pace)

variable {tools node context services} {data : Option Fields} {next : Option String}

/-- What is known of a handled node that completed, whose readings of the clock are still to be used up: its data are
there, they ask for no other node, and it did what a rule says. -/
def Did (tools : Tools) (node : Node) (context : Context) (services : Services) (handled : Handled Services) : Prop :=
  ∃ data, handled.verdict = done data ∧ tools.Does node context services data handled.context (handled.state.later pace)

/-! ## The handlers, one by one -/

theorem did_trigger {c : TriggerConfig} (hc : node.config = .ok (.trigger c))
    (h : tools.triggerVerdict c context services = .completed data next) :
    tools.Did node context services
      { verdict := tools.triggerVerdict c context services, context, state := services } := by
  have hdone : ∃ fields, tools.triggerVerdict c context services = done fields := by
    unfold triggerVerdict at h ⊢
    split at h
    · exact ⟨_, rfl⟩
    · split at h
      · split at h
        · rename_i hm hr
          exact ⟨_, if_pos hr⟩
        · cases h
      · cases h
    · exact ⟨_, rfl⟩
    · cases h
  obtain ⟨fields, hfields⟩ := hdone
  exact ⟨fields, hfields, .triggered hc hfields⟩

theorem did_aiAction {c : AiActionConfig} (hc : node.config = .ok (.aiAction c))
    (h : (tools.aiAction node c context services).verdict = .completed data next) :
    tools.Did node context services (tools.aiAction node c context services) := by
  unfold aiAction at h ⊢
  by_cases hp : c.prompt.getD "" = ""
  · rw [if_pos (by simpa using hp)] at h
    cases h
  rw [if_neg (by simpa using hp)] at h ⊢
  cases hg : tools.provider with
  | none =>
    rw [hg] at h
    cases h
  | some provider =>
    cases hf : (tools.fill (c.prompt.getD "") context services).result with
    | error fault =>
      simp only [hg, hf] at h
      cases h
    | ok text =>
      cases ha : (provider.generate services.asked (promptOf c context text)).result with
      | error fault =>
        simp only [hg, hf, ask, ha] at h
        cases h
      | ok content =>
        simp only [hf, ask, ha]
        exact ⟨_, rfl, .answered hc hp hg hf ha⟩

theorem did_condition {c : ConditionConfig} (hc : node.config = .ok (.condition c))
    (h : (tools.condition c context services).verdict = .completed data next) :
    tools.Did node context services (tools.condition c context services) := by
  unfold condition at h ⊢
  split at h
  · cases h
  · rename_i hg
    cases hd : (tools.decide c context.vars).result with
    | error fault =>
      simp only [hd] at h
      cases h
    | ok met =>
      rw [if_neg hg]
      simp only [hd]
      exact ⟨_, rfl, .decided hc hd⟩

/-- Posting completes a node only with the verdict that it was given, and leaves the context as it is. -/
theorem post_completed {webhook : Webhook} {c : OutputConfig} {content : String} {verdict : Verdict}
    (h : (tools.post webhook node c content verdict context services).verdict = .completed data next) :
    (tools.post webhook node c content verdict context services).verdict = verdict ∧
      ∃ requests, (tools.post webhook node c content verdict context services).state =
        { services with posted := services.posted ++ requests } := by
  revert h
  unfold post
  split
  · exact fun _ => ⟨rfl, [], by rw [List.append_nil]⟩
  · dsimp only
    split
    · exact fun _ => ⟨rfl, _, rfl⟩
    · split
      · exact fun _ => ⟨rfl, _, rfl⟩
      · intro h
        cases h

/-- An output that completes has put its text where it says. -/
theorem placed_of_completed {c : OutputConfig} {content : String}
    (h : (tools.place node c content context services).verdict = .completed data next) :
    (tools.place node c content context services).verdict =
        done [("output", .text content), ("outputType", .ofText? c.outputType)] ∧
      tools.Places context services c content (tools.place node c content context services).context
        (tools.place node c content context services).state := by
  revert h
  unfold place
  dsimp only
  split
  · rename_i hk
    exact fun _ => ⟨rfl, .said hk⟩
  · rename_i hk
    exact fun _ => ⟨rfl, .stored hk⟩
  · rename_i hk
    cases tools.webhook with
    | none => exact fun _ => ⟨rfl, .logged (by rw [hk]; decide) (by rw [hk]; decide)⟩
    | some webhook =>
      intro h
      obtain ⟨hverdict, requests, hstate⟩ := post_completed h
      have hcontext := post_keeps tools node context services webhook c content
        (done [("output", .text content), ("outputType", .ofText? c.outputType)])
      refine ⟨hverdict, ?_⟩
      rw [hcontext, hstate]
      exact .sent hk requests
  · rename_i hsilent hstays _
    exact fun _ => ⟨rfl, .logged hsilent hstays⟩

theorem did_output {c : OutputConfig} (hc : node.config = .ok (.output c))
    (h : (tools.output node c context services).verdict = .completed data next) :
    tools.Did node context services (tools.output node c context services) := by
  unfold output at h ⊢
  cases hf : (tools.fill (c.content.getD "") context services).result with
  | error fault =>
    simp only [hf] at h
    cases h
  | ok content =>
    simp only [hf] at h ⊢
    obtain ⟨hverdict, hplaced⟩ := placed_of_completed h
    exact ⟨_, hverdict, .put hc hf hplaced⟩

/-! ## All kinds -/

/-- What keeps a node from completing is a failure or a fault. -/
theorem Refuses.ne_completed {verdict : Verdict} {state : Services}
    (h : tools.Refuses node context services verdict state) : verdict ≠ .completed data next := by
  cases h <;> nofun

/-- **A visited node completes by one of the rules, or there is a cause why not and its context is what it was.** -/
theorem visit_cases (tools : Tools) (node : Node) (context : Context) (services : Services) :
    let handled := tools.handlers.visit node context services
    (∃ data, handled.verdict = done data ∧ tools.Does node context services data handled.context handled.state) ∨
      tools.Refuses node context services handled.verdict handled.state ∧ handled.context = context := by
  dsimp only
  rcases accounted_visit tools node context services with ⟨data, next, h⟩ | hrefuses
  · refine Or.inl ?_
    cases hc : node.config with
    | error report =>
      simp only [Handlers.visit, handlers, hc] at h
      cases h
    | ok config =>
      rw [visit_of_config hc, handler_eq] at h ⊢
      cases config with
      | trigger c => exact did_trigger hc h
      | aiAction c => exact did_aiAction hc h
      | condition c => exact did_condition hc h
      | output c => exact did_output hc h
  · exact Or.inr hrefuses

/-! ## Readings of the clock -/

theorem Places.ticks {c : OutputConfig} {content : String} {left : Context} {state : Services}
    (h : tools.Places context services c content left state) : state.ticks = services.ticks := by
  cases h <;> rfl

theorem Does.ticks {data : Fields} {left : Context} {state : Services}
    (h : tools.Does node context services data left state) : state.ticks = services.ticks + pace := by
  cases h with
  | put _ _ placed => exact congrArg (· + pace) placed.ticks
  | triggered | answered | decided => rfl

/-- How many readings of the clock a node uses up: none if its data cannot be read. -/
def paceOf (node : Node) : Nat :=
  match node.config with
  | .ok _ => pace
  | .error _ => 0

theorem Does.paceOf {data : Fields} {left : Context} {state : Services}
    (h : tools.Does node context services data left state) : paceOf node = pace := by
  cases h with
  | triggered hc | answered hc | decided hc | put hc => rw [Tools.paceOf, hc]

theorem Refuses.ticks {verdict : Verdict} {state : Services} (h : tools.Refuses node context services verdict state) :
    state.ticks = services.ticks + Tools.paceOf node := by
  cases h with
  | unread hc | trigger hc | noPrompt hc | noProvider hc | promptUnfilled hc | unanswered hc | noCondition hc
  | undecided hc | outputUnfilled hc | undelivered hc =>
    rw [Tools.paceOf, hc]
    rfl

/-- **A node that completes uses up its readings of the clock.** -/
theorem ticks_visit (h : (tools.handlers.visit node context services).verdict = .completed data next) :
    (tools.handlers.visit node context services).state.ticks = services.ticks + pace := by
  rcases visit_cases tools node context services with ⟨_, -, hdoes⟩ | ⟨hrefuses, -⟩
  · exact hdoes.ticks
  · exact absurd h hrefuses.ne_completed

end Tools

end Chatflow
