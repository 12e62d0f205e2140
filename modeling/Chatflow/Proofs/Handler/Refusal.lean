import Chatflow.Proofs.Handler.Frame

/-!
# Nodes that do not complete

For which causes the standard handlers do not complete a node, and what they leave behind then.  Each cause is a rule of
`Refuses`, with the verdict and with what was asked and posted by then:

* `accounted_visit`: a node completes, or there is such a cause and nothing came into the context.
* `visit_of_refuses`: each cause keeps a node from completing.
* `Refuses.of_unread`: nothing is asked or posted for a node whose data cannot be read.
-/

namespace Chatflow.Tools

variable (tools : Tools) (node : Node) (context : Context) (services : Services)

/-- Why a node is not completed, the verdict on it, and the services behind it.  A node whose data can be read uses up its
readings of the clock. -/
inductive Refuses : Verdict → Services → Prop
  | unread {report : Schema.Report} (config : node.config = .error report) :
      Refuses (.failed (some s!"Invalid {node.kind.name} configuration: {report.describe}")) services
  | trigger {c : TriggerConfig} {error : Option String} (config : node.config = .ok (.trigger c))
      (verdict : tools.triggerVerdict c context services = .failed error) :
      Refuses (.failed error) (services.later pace)
  | noPrompt {c : AiActionConfig} (config : node.config = .ok (.aiAction c))
      (prompt : c.prompt.getD "" = "") :
      Refuses (.failed (some "No prompt specified for AI action")) (services.later pace)
  | noProvider {c : AiActionConfig} (config : node.config = .ok (.aiAction c))
      (prompt : c.prompt.getD "" ≠ "") (provider : tools.provider = none) :
      Refuses (.failed (some "AI action failed: no LLM provider configured")) (services.later pace)
  | promptUnfilled {c : AiActionConfig} {provider : Provider} {fault : Value.Fault}
      (config : node.config = .ok (.aiAction c)) (prompt : c.prompt.getD "" ≠ "")
      (given : tools.provider = some provider)
      (filled : (tools.fill (c.prompt.getD "") context services).result = .error fault) :
      Refuses (.raised (.value fault)) (services.later pace)
  | unanswered {c : AiActionConfig} {provider : Provider} {text : String} {fault : Fault}
      (config : node.config = .ok (.aiAction c)) (prompt : c.prompt.getD "" ≠ "")
      (given : tools.provider = some provider)
      (filled : (tools.fill (c.prompt.getD "") context services).result = .ok text)
      (answer : (provider.generate services.asked (promptOf c context text)).result = .error fault) :
      Refuses (.failed (some s!"AI action failed: {fault.message}"))
        (Services.later { services with asked := services.asked ++ [promptOf c context text] } pace)
  | noCondition {c : ConditionConfig} (config : node.config = .ok (.condition c))
      (condition : c.condition.getD "" = "") (compared : c.variableName.getD "" = "") :
      Refuses (.failed (some "No condition specified")) (services.later pace)
  | undecided {c : ConditionConfig} {fault : Value.Fault} (config : node.config = .ok (.condition c))
      (given : ¬(c.condition.getD "" = "" ∧ c.variableName.getD "" = ""))
      (decided : (tools.decide c context.vars).result = .error fault) :
      Refuses (.failed (some s!"Condition evaluation failed: {fault.message}")) (services.later pace)
  | outputUnfilled {c : OutputConfig} {fault : Value.Fault} (config : node.config = .ok (.output c))
      (filled : (tools.fill (c.content.getD "") context services).result = .error fault) :
      Refuses (.raised (.value fault)) (services.later pace)
  | undelivered {c : OutputConfig} {webhook : Webhook} {content : String} {fault : Fault}
      (config : node.config = .ok (.output c))
      (filled : (tools.fill (c.content.getD "") context services).result = .ok content)
      (kind : c.outputType = some "webhook") (given : tools.webhook = some webhook)
      (address : webhook.resolve c ≠ .null)
      (delivery : (webhook.deliver tools.client tools.network services.posted (tools.reading services 1).moment content
        node context (webhook.resolve c)).result = .error fault)
      (unhandled : fault.isUndelivered = false) :
      Refuses (.raised fault)
        (Services.later { services with
          posted := services.posted ++ (webhook.deliver tools.client tools.network services.posted
            (tools.reading services 1).moment content node context (webhook.resolve c)).request.toList } pace)

variable {tools node context services}

/-- What is known of a handled node, whose readings of the clock are still to be used up: it completed, or there is a
cause why not and its context is what it was. -/
def Accounted (tools : Tools) (node : Node) (context : Context) (services : Services)
    (handled : Handled Services) : Prop :=
  (∃ data next, handled.verdict = .completed data next) ∨
    tools.Refuses node context services handled.verdict (handled.state.later pace) ∧ handled.context = context

/-! ## The handlers, one by one -/

theorem triggerVerdict_ne_raised (tools : Tools) (c : TriggerConfig) (context : Context) (services : Services)
    (fault : Fault) : tools.triggerVerdict c context services ≠ .raised fault := by
  intro h
  unfold triggerVerdict at h
  split at h
  · cases h
  · split at h
    · split at h <;> cases h
    · cases h
  · cases h
  · cases h

theorem accounted_trigger {c : TriggerConfig} (h : node.config = .ok (.trigger c)) :
    tools.Accounted node context services
      { verdict := tools.triggerVerdict c context services, context, state := services } := by
  cases hv : tools.triggerVerdict c context services with
  | completed data next => exact Or.inl ⟨data, next, rfl⟩
  | failed error => exact Or.inr ⟨.trigger h hv, rfl⟩
  | raised fault => exact absurd hv (triggerVerdict_ne_raised tools c context services fault)

theorem accounted_aiAction {c : AiActionConfig} (h : node.config = .ok (.aiAction c)) :
    tools.Accounted node context services (tools.aiAction node c context services) := by
  unfold aiAction
  by_cases hp : c.prompt.getD "" = ""
  · rw [if_pos (by simpa using hp)]
    exact Or.inr ⟨.noPrompt h hp, rfl⟩
  rw [if_neg (by simpa using hp)]
  cases hg : tools.provider with
  | none => exact Or.inr ⟨.noProvider h hp hg, rfl⟩
  | some provider =>
    cases hf : (tools.fill (c.prompt.getD "") context services).result with
    | error fault =>
      simp only [hf]
      exact Or.inr ⟨.promptUnfilled h hp hg hf, rfl⟩
    | ok text =>
      cases ha : (provider.generate services.asked (promptOf c context text)).result with
      | ok content =>
        simp only [hf, ask, ha]
        exact Or.inl ⟨_, _, rfl⟩
      | error fault =>
        simp only [hf, ask, ha]
        exact Or.inr ⟨.unanswered h hp hg hf ha, rfl⟩

theorem accounted_condition {c : ConditionConfig} (h : node.config = .ok (.condition c)) :
    tools.Accounted node context services (tools.condition c context services) := by
  unfold condition
  by_cases hg : c.condition.getD "" = "" ∧ c.variableName.getD "" = ""
  · rw [if_pos (by simpa using hg)]
    exact Or.inr ⟨.noCondition h hg.1 hg.2, rfl⟩
  rw [if_neg (by simpa using hg)]
  cases hd : (tools.decide c context.vars).result with
  | ok met =>
    simp only [hd]
    exact Or.inl ⟨_, _, rfl⟩
  | error fault =>
    simp only [hd]
    exact Or.inr ⟨.undecided h hg hd, rfl⟩

theorem accounted_post {c : OutputConfig} {webhook : Webhook} {content : String} {data : Option Fields}
    (h : node.config = .ok (.output c))
    (hf : (tools.fill (c.content.getD "") context services).result = .ok content)
    (hk : c.outputType = some "webhook") (hg : tools.webhook = some webhook) :
    tools.Accounted node context services
      (tools.post webhook node c content (.completed data none) context services) := by
  unfold post
  split
  · exact Or.inl ⟨_, _, rfl⟩
  rename_i hurl
  cases hd : (webhook.deliver tools.client tools.network services.posted (tools.reading services 1).moment content node
      context (webhook.resolve c)).result with
  | ok _ =>
    simp only [hd]
    exact Or.inl ⟨_, _, rfl⟩
  | error fault =>
    simp only [hd]
    by_cases hu : fault.isUndelivered
    · rw [if_pos hu]
      exact Or.inl ⟨_, _, rfl⟩
    · rw [if_neg hu]
      exact Or.inr ⟨.undelivered h hf hk hg hurl hd (by simpa using hu), rfl⟩

theorem accounted_output {c : OutputConfig} (h : node.config = .ok (.output c)) :
    tools.Accounted node context services (tools.output node c context services) := by
  unfold output
  cases hf : (tools.fill (c.content.getD "") context services).result with
  | error fault =>
    simp only [hf]
    exact Or.inr ⟨.outputUnfilled h hf, rfl⟩
  | ok content =>
    simp only [hf]
    show tools.Accounted node context services
      { tools.place node c content context services with records := _ }
    unfold place
    split
    · exact Or.inl ⟨_, _, rfl⟩
    · exact Or.inl ⟨_, _, rfl⟩
    · rename_i hk
      cases hg : tools.webhook with
      | none => exact Or.inl ⟨_, _, rfl⟩
      | some webhook => exact accounted_post h hf hk hg
    · exact Or.inl ⟨_, _, rfl⟩

/-! ## All kinds -/

/-- **A visited node completes, or there is a cause why not and its context is what it was.** -/
theorem accounted_visit (tools : Tools) (node : Node) (context : Context) (services : Services) :
    let handled := tools.handlers.visit node context services
    (∃ data next, handled.verdict = .completed data next) ∨
      tools.Refuses node context services handled.verdict handled.state ∧ handled.context = context := by
  dsimp only
  cases h : node.config with
  | error report =>
    simp only [Handlers.visit, handlers, h]
    exact Or.inr ⟨.unread h, trivial⟩
  | ok config =>
    rw [visit_of_config h, handler_eq]
    cases config with
    | trigger c => exact accounted_trigger h
    | aiAction c => exact accounted_aiAction h
    | condition c => exact accounted_condition h
    | output c => exact accounted_output h

/-- Each cause does keep a node from completing: its verdict and its services are those of the visit. -/
theorem visit_of_refuses {verdict : Verdict} {state : Services}
    (h : tools.Refuses node context services verdict state) :
    let handled := tools.handlers.visit node context services
    handled.verdict = verdict ∧ handled.state = state ∧ handled.context = context := by
  cases h with
  | unread hc => simp [Handlers.visit, handlers, hc]
  | trigger hc hv => simp [visit_of_config hc, handler, handle, hv]
  | noPrompt hc hp => simp [visit_of_config hc, handler, handle, aiAction, hp]
  | noProvider hc hp hg => simp [visit_of_config hc, handler, handle, aiAction, hp, hg]
  | promptUnfilled hc hp hg hf => simp [visit_of_config hc, handler, handle, aiAction, hp, hg, hf]
  | unanswered hc hp hg hf ha => simp [visit_of_config hc, handler, handle, aiAction, hp, hg, hf, ask, ha]
  | noCondition hc hw hn => simp [visit_of_config hc, handler, handle, condition, hw, hn]
  | undecided hc hg hd => simp [visit_of_config hc, handler, handle, condition, hg, hd]
  | outputUnfilled hc hf => simp [visit_of_config hc, handler, handle, output, hf]
  | undelivered hc hf hk hg hurl hd hu =>
    simp [visit_of_config hc, handler, handle, output, hf, place, hk, hg, post, hd, hu]

/-- Nothing is asked or posted for a node whose data cannot be read. -/
theorem Refuses.of_unread {verdict : Verdict} {state : Services} {report : Schema.Report}
    (h : tools.Refuses node context services verdict state) (hc : node.config = .error report) :
    state = services := by
  obtain ⟨-, hstate, -⟩ := visit_of_refuses h
  rw [← hstate]
  simp only [Handlers.visit, handlers, hc]

end Chatflow.Tools
