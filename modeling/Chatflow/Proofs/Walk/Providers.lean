import Chatflow.Proofs.Generation.Replies
import Chatflow.Proofs.Walk.Asking
import Chatflow.Proofs.Walk.Delivery
import Chatflow.Proofs.Walk.Locality

/-!
# Walks with different providers

Nodes make of a provider only what it gives, not what it logs.  So providers that give the same (`Provider.Alike`) make
no difference to a run (`run_asking_alike`).  Gateways do so over backends that reply the same and fail in ways of the
same kind (`Backend.Alike`).

When a request of an AI action fails at the backend, the action fails, and the run ends there; its error tells the kind
of the failure, and nothing else of it (`run_refused`).
-/

namespace Chatflow

/-- Two providers give the same to every prompt; what they log may differ. -/
def Provider.Alike (first second : Provider) : Prop :=
  ∀ earlier prompt, (first.generate earlier prompt).result = (second.generate earlier prompt).result

/-- The same reply, or two failures of one kind. -/
inductive Gateway.SameKind : Except Fault Value → Except Fault Value → Prop
  | reply (v : Value) : SameKind (.ok v) (.ok v)
  | failure {fault other : Fault} (kind : classify fault = classify other) : SameKind (.error fault) (.error other)

/-- Two backends reply the same to every request, or fail in ways of one kind. -/
def Backend.Alike (first second : Backend) : Prop :=
  ∀ earlier request, Gateway.SameKind (first earlier request) (second earlier request)

/-- A gateway tells failures of one kind in the same words. -/
theorem Backend.Alike.provider {first second : Backend} (h : first.Alike second) (gateway : Gateway) :
    (gateway.provider first).Alike (gateway.provider second) := by
  intro earlier prompt
  have hkind := h (earlier.map gateway.request) (gateway.request prompt)
  simp only [Gateway.generate_result, Gateway.complete_result]
  generalize first _ _ = one at hkind ⊢
  generalize second _ _ = other at hkind ⊢
  cases hkind with
  | reply v => rfl
  | failure kind => simp only [Gateway.failure, kind]

/-! ## Nodes -/

namespace Tools

/-- The same tools with a provider. -/
def asking (tools : Tools) (provider : Provider) : Tools := { tools with provider := some provider }

/-- What the error of an AI action is whose request fails at the backend. -/
def refusal (kind : GenerationFault) : String := "AI action failed: " ++ Gateway.advice kind

variable {tools : Tools} {node : Node} {context : Context} {services : Services}

theorem ask_alike {first second : Provider} (h : first.Alike second) (node : Node) (c : AiActionConfig) (text : String)
    (context : Context) (services : Services) :
    (ask first node c text context services).Alike (ask second node c text context services) := by
  unfold ask
  dsimp only
  rw [h services.asked (promptOf c context text)]
  cases (second.generate services.asked (promptOf c context text)).result <;> exact ⟨rfl, rfl, rfl, rfl⟩

theorem aiAction_alike {first second : Provider} (h : first.Alike second) (c : AiActionConfig) :
    ((tools.asking first).aiAction node c context services).Alike
      ((tools.asking second).aiAction node c context services) := by
  have hfill : ∀ provider, (tools.asking provider).fill (c.prompt.getD "") context services =
      tools.fill (c.prompt.getD "") context services := fun _ => rfl
  unfold aiAction
  dsimp only
  split
  · exact ⟨rfl, rfl, rfl, rfl⟩
  · rw [hfill, hfill]
    dsimp only [asking]
    cases (tools.fill (c.prompt.getD "") context services).result with
    | error fault => exact ⟨rfl, rfl, rfl, rfl⟩
    | ok text =>
      have halike := ask_alike h node c text context services
      exact ⟨halike.verdict, halike.context, halike.refusal, halike.state⟩

/-- **A node does the same with providers that give the same.** -/
theorem visit_asking_alike {first second : Provider} (h : first.Alike second) (tools : Tools) (node : Node)
    (context : Context) (services : Services) :
    ((tools.asking first).handlers.visit node context services).Alike
      ((tools.asking second).handlers.visit node context services) := by
  cases hc : node.config with
  | error report =>
    simp only [Handlers.visit, handlers, hc]
    exact ⟨rfl, rfl, rfl, rfl⟩
  | ok config =>
    rw [visit_of_config hc, visit_of_config hc]
    cases config with
    | aiAction c =>
      have halike : ((tools.asking first).aiAction node c context services).Alike
          ((tools.asking second).aiAction node c context services) := aiAction_alike h c
      exact ⟨halike.verdict, halike.context, halike.refusal, congrArg (Services.later · pace) halike.state⟩
    | trigger c | condition c | output c => exact ⟨rfl, rfl, rfl, rfl⟩

variable {gateway : Gateway} {backend : Backend} {prompt : Prompt} {fault : Fault}

/-- An AI action whose request fails at the backend fails in fixed words. -/
theorem visit_of_refused (hprovider : tools.provider = some (gateway.provider backend))
    (hasks : tools.asks node context services = some prompt)
    (hfault : backend (services.asked.map gateway.request) (gateway.request prompt) = .error fault) :
    (tools.handlers.visit node context services).verdict = .failed (some (refusal (Gateway.classify fault))) := by
  obtain ⟨-, c, text, hc, hp, hf, rfl⟩ := asks_eq_some_iff.mp hasks
  exact (visit_of_refuses (.unanswered hc hp hprovider hf (Gateway.generate_of_error hfault))).1

end Tools

namespace Walker

/-- A run that takes a step is a walk under its cap. -/
theorem run_of_step {σ : Type} {walker : Walker σ} {setup : RunSetup} {trace : Trace} {start : String}
    {context : Context} {state : σ} {step : Step}
    (h : step ∈ (walker.run setup trace start context state).walk.steps) :
    let run := walker.run setup trace start context state
    ∃ n cap, run.walk = (walker.walkFrom n ⟨start, context, state⟩).under cap ∧
      run.report = run.walk.report setup.executionId := by
  cases hcap : if start.isEmpty then some (.ofInt 0) else Cap.ofValue? setup.cap with
  | none =>
    simp only [run, hcap] at h
    cases h
  | some cap =>
    obtain ⟨hwalk, hreport, -⟩ := walker.run_of_cap setup start cap hcap trace context state
    exact ⟨cap.allowed, cap, hwalk, by rw [hreport, ← hwalk]⟩

section Refused

variable {graph : Graph} {tools : Tools} {gateway : Gateway} {backend : Backend}

/-- **When the request of an AI action fails at the backend, the walk ends there, with an error in fixed words.** -/
theorem walkFrom_refused (hprovider : tools.provider = some (gateway.provider backend)) (n : Nat) (s : Stand Services)
    {front back : List Step} {step : Step} {prompt : Prompt} {fault : Fault}
    (hsteps : (walkFrom ⟨graph, tools.handlers⟩ n s).steps = front ++ step :: back)
    (hasks : tools.asks step.node step.before { ticks := s.state.ticks + Tools.pace * front.length } = some prompt)
    (hfault : backend ((s.state.asked ++ tools.asked s.state.ticks front).map gateway.request) (gateway.request prompt) =
      .error fault) :
    back = [] ∧ step.verdict = .failed (some (Tools.refusal (Gateway.classify fault))) ∧
      (walkFrom ⟨graph, tools.handlers⟩ n s).ending = .failed (some (Tools.refusal (Gateway.classify fault))) := by
  induction n, s using walkFrom_induction ⟨graph, tools.handlers⟩ generalizing front with
  | @stops n s last hs =>
    -- A walk that ends at its first node has no other step.
    have hnode : ∀ node, [stepAt ⟨graph, tools.handlers⟩ s node] = front ++ step :: back →
        back = [] ∧ step.verdict = (handledAt ⟨graph, tools.handlers⟩ s node).verdict ∧
          (handledAt ⟨graph, tools.handlers⟩ s node).verdict =
            .failed (some (Tools.refusal (Gateway.classify fault))) := by
      intro node hlast
      obtain ⟨rfl, rfl, rfl⟩ : front = [] ∧ step = stepAt ⟨graph, tools.handlers⟩ s node ∧ back = [] := by
        simpa [List.singleton_eq_append_iff, and_assoc] using hlast
      rw [Tools.asked, Step.timed, List.filterMap_nil, List.append_nil] at hfault
      exact ⟨rfl, rfl, Tools.visit_of_refused hprovider hasks hfault⟩
    cases hs with
    | finished | capped | missing => cases front <;> cases hsteps
    | failed hp hf hv =>
      obtain ⟨hback, hverdict, hrefused⟩ := hnode _ hsteps
      cases hv.symm.trans hrefused
      exact ⟨hback, hverdict.trans hrefused, rfl⟩
    | raised hp hf hv =>
      obtain ⟨-, -, hrefused⟩ := hnode _ hsteps
      cases hv.symm.trans hrefused
    | escaped hp hf hescape =>
      obtain ⟨-, -, hrefused⟩ := hnode _ hsteps
      cases (escapeAt_of_failed _ hrefused).symm.trans hescape
  | @completes n s node hc ih =>
    cases front with
    | nil =>
      obtain ⟨rfl, -⟩ := List.cons_eq_cons.mp hsteps
      rw [Tools.asked, Step.timed, List.filterMap_nil, List.append_nil] at hfault
      have hrefused : (handledAt ⟨graph, tools.handlers⟩ s node).verdict = _ :=
        Tools.visit_of_refused hprovider hasks hfault
      obtain ⟨data, next, hverdict⟩ := hc.completed
      cases hverdict.symm.trans hrefused
    | cons first front =>
      obtain ⟨rfl, hrest⟩ := List.cons_eq_cons.mp hsteps
      obtain ⟨data, next, hverdict⟩ := hc.completed
      have hticks : (standBehind ⟨graph, tools.handlers⟩ s node).state.ticks = s.state.ticks + Tools.pace :=
        Tools.ticks_visit hverdict
      have hasked : (standBehind ⟨graph, tools.handlers⟩ s node).state.asked = _ :=
        Tools.visit_asked tools node (s.context.at s.pending) s.state
      refine ih hrest ?_ ?_
      · rw [List.length_cons, Nat.mul_succ, Nat.add_comm (Tools.pace * _), ← Nat.add_assoc] at hasks
        rw [hticks]
        exact hasks
      · rw [Tools.asked, Step.timed_cons, List.filterMap_eq_flatMap_toList, List.flatMap_cons, ← List.append_assoc]
          at hfault
        rw [hasked, hticks, Tools.asked, List.filterMap_eq_flatMap_toList]
        exact hfault

/-- **When the request of an AI action fails at the backend, the run ends there, and its error tells the kind of the
failure.** -/
theorem run_refused (hprovider : tools.provider = some (gateway.provider backend)) (setup : RunSetup) (trace : Trace)
    (start : String) (context : Context) (services : Services) {front back : List Step} {step : Step} {prompt : Prompt}
    {fault : Fault}
    (hsteps : (run ⟨graph, tools.handlers⟩ setup trace start context services).walk.steps = front ++ step :: back)
    (hasks : tools.asks step.node step.before { ticks := services.ticks + Tools.pace * front.length } = some prompt)
    (hfault : backend ((services.asked ++ tools.asked services.ticks front).map gateway.request)
      (gateway.request prompt) = .error fault) :
    let report := (run ⟨graph, tools.handlers⟩ setup trace start context services).report
    back = [] ∧ step.verdict = .failed (some (Tools.refusal (Gateway.classify fault))) ∧
      report.ending = "node_failed" ∧ report.error = some (Tools.refusal (Gateway.classify fault)) := by
  intro report
  obtain ⟨n, cap, hwalk, hreport⟩ := run_of_step (hsteps ▸ List.mem_append_right front List.mem_cons_self)
  rw [hwalk] at hsteps hreport
  rw [Walk.steps_under] at hsteps
  obtain ⟨hback, hverdict, hending⟩ := walkFrom_refused hprovider n ⟨start, context, services⟩ hsteps hasks hfault
  rw [Walk.under_of_ne (by rw [hending]; nofun)] at hreport
  refine ⟨hback, hverdict, ?_, ?_⟩
  · rw [show report = _ from hreport, Walk.report, hending]
    rfl
  · rw [show report = _ from hreport, Walk.report, hending]
    rfl

end Refused

end Walker

end Chatflow
