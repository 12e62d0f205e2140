import Chatflow.Proofs.Handler.Completion
import Chatflow.Proofs.Walk.Speech

/-!
# What is asked in a walk

Only AI actions ask the provider, each one prompt, when it has a text that can be filled in (`Tools.asks`).  A run puts
what its nodes ask behind what was asked before, in the order of the nodes (`run_asked`).

A prompt holds the conversation as it stood when its node was reached, and the text as a turn of the user behind it; the
node leaves the conversation as it is.  As conversations only grow, so do the prompts of a run, but for their last turns
(`run_asks_accounted`).
-/

namespace Chatflow

namespace Tools

/-- What a visited node asks of the provider: an AI action asks its prompt, when a provider is set up, there is a text
and the text can be filled in. -/
def asks (tools : Tools) (node : Node) (context : Context) (services : Services) : Option Prompt :=
  match node.config, tools.provider with
  | .ok (.aiAction c), some _ =>
    if c.prompt.getD "" = "" then none
    else
      match (tools.fill (c.prompt.getD "") context services).result with
      | .ok text => some (promptOf c context text)
      | .error _ => none
  | _, _ => none

variable {tools : Tools} {node : Node} {context : Context} {services : Services} {prompt : Prompt}

theorem asks_eq_some_iff : tools.asks node context services = some prompt ↔
    tools.provider.isSome ∧ ∃ c text, node.config = .ok (.aiAction c) ∧ c.prompt.getD "" ≠ "" ∧
      (tools.fill (c.prompt.getD "") context services).result = .ok text ∧
      prompt = promptOf c context text := by
  constructor
  · intro h
    unfold asks at h
    split at h
    · rename_i c provider hc hg
      split at h
      · cases h
      · rename_i hp
        split at h
        · rename_i text hf
          exact ⟨by rw [hg]; rfl, c, text, hc, hp, hf, (Option.some.inj h).symm⟩
        · cases h
    · cases h
  · rintro ⟨hgiven, c, text, hc, hp, hf, rfl⟩
    obtain ⟨provider, hg⟩ := Option.isSome_iff_exists.mp hgiven
    simp only [asks, hc, hg, hf, if_neg hp]

theorem asks_eq_none {config : Except Schema.Report NodeConfig} (h : node.config = config)
    (hother : ∀ c, config ≠ .ok (.aiAction c)) : tools.asks node context services = none := by
  rw [Option.eq_none_iff_forall_ne_some]
  intro prompt hask
  obtain ⟨-, c, -, hc, -⟩ := asks_eq_some_iff.mp hask
  exact hother c (h.symm.trans hc)

/-- What a completed node asked. -/
theorem Does.asked {data : Fields} {left : Context} {state : Services}
    (h : tools.Does node context services data left state) :
    state.asked = services.asked ++ (tools.asks node context services).toList := by
  cases h with
  | triggered hc | decided hc =>
    rw [Services.asked_later, asks_eq_none hc (fun _ h => by cases h), Option.toList_none, List.append_nil]
  | answered hc hp hg hf ha =>
    rw [asks_eq_some_iff.mpr ⟨by rw [hg]; rfl, _, _, hc, hp, hf, rfl⟩]
    rfl
  | put hc hf hplaced =>
    rw [asks_eq_none hc (fun _ h => by cases h), Option.toList_none, List.append_nil]
    cases hplaced <;> rfl

/-- What a node asked that was not completed: it may be that the provider gave no text. -/
theorem Refuses.asked {verdict : Verdict} {state : Services}
    (h : tools.Refuses node context services verdict state) :
    state.asked = services.asked ++ (tools.asks node context services).toList := by
  have hnone : (∀ prompt, tools.asks node context services ≠ some prompt) →
      services.asked = services.asked ++ (tools.asks node context services).toList := by
    intro hne
    rw [Option.eq_none_iff_forall_ne_some.mpr hne, Option.toList_none, List.append_nil]
  cases h with
  | unread hc => rw [asks_eq_none hc (fun _ h => by cases h), Option.toList_none, List.append_nil]
  | trigger hc | noCondition hc | undecided hc | outputUnfilled hc | undelivered hc =>
    rw [Services.asked_later, asks_eq_none hc (fun _ h => by cases h), Option.toList_none, List.append_nil]
  | noPrompt hc hp =>
    refine hnone fun prompt hask => ?_
    obtain ⟨-, c, text, hc', hp', -⟩ := asks_eq_some_iff.mp hask
    cases hc.symm.trans hc'
    exact hp' hp
  | noProvider hc hp hg =>
    refine hnone fun prompt hask => ?_
    obtain ⟨hgiven, -⟩ := asks_eq_some_iff.mp hask
    rw [hg] at hgiven
    cases hgiven
  | promptUnfilled hc hp hg hf =>
    refine hnone fun prompt hask => ?_
    obtain ⟨-, c, text, hc', -, hf', -⟩ := asks_eq_some_iff.mp hask
    cases hc.symm.trans hc'
    rw [hf] at hf'
    cases hf'
  | unanswered hc hp hg hf ha =>
    rw [asks_eq_some_iff.mpr ⟨by rw [hg]; rfl, _, _, hc, hp, hf, rfl⟩]
    rfl

/-- **A visited node adds what it asks to what was asked, and nothing else.** -/
theorem visit_asked (tools : Tools) (node : Node) (context : Context) (services : Services) :
    (tools.handlers.visit node context services).state.asked =
      services.asked ++ (tools.asks node context services).toList := by
  rcases visit_cases tools node context services with ⟨data, -, hdoes⟩ | ⟨hrefuses, -⟩
  · exact hdoes.asked
  · exact hrefuses.asked

end Tools

/-- The prompts that the nodes of a row of steps ask, in order, behind so many readings of the clock. -/
def Tools.asked (tools : Tools) (ticks : Nat) (steps : List Step) : List Prompt :=
  (Step.timed Tools.pace ticks steps).filterMap fun timed => tools.asks timed.1.node timed.1.before { ticks := timed.2 }

namespace Walker

/-! ## Walks -/

section Walks

variable (graph : Graph) (tools : Tools)

end Walks

/-! ## Runs -/

/-- **What a run asks is what its nodes ask, in their order.** -/
theorem run_asked (graph : Graph) (tools : Tools) (setup : RunSetup) (trace : Trace) (start : String) (context : Context)
    (services : Services) :
    (run ⟨graph, tools.handlers⟩ setup trace start context services).walk.state.asked =
      services.asked ++
        tools.asked services.ticks (run ⟨graph, tools.handlers⟩ setup trace start context services).walk.steps := by
  rw [Tools.asked, List.filterMap_eq_flatMap_toList]
  have hgains : Gains tools.handlers (fun _ services => services.asked) Services.ticks Tools.pace
      fun ticks node context => (tools.asks node context { ticks }).toList :=
    { at_id := fun _ _ _ => rfl
      merge := fun _ _ _ => rfl
      visit := Tools.visit_asked tools
      paced := fun _ _ _ _ _ => Tools.ticks_visit }
  exact run_gains ⟨graph, tools.handlers⟩ hgains setup trace start context services

end Walker

end Chatflow
