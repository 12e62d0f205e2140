import Chatflow.Host.ManualRun
import Chatflow.Proofs.Host.Apology
import Chatflow.Proofs.Host.Silence
import Chatflow.Proofs.Walk.Providers

/-!
# What users learn of a failing backend

A host gives back the same with providers that give the same: manual runs and chat turns have the same results, and
leave the same behind (`Done.Alike`).  So a host whose gateway has one of two backends that reply the same and fail in
ways of one kind does not tell which it is; what a failure says of itself is in the log only (`told_by_kind`).
-/

namespace Chatflow

/-- The same came of two things, and the same was asked and posted; what was logged may differ. -/
structure Done.Alike {α : Type} (first second : Done α) : Prop where
  result : first.result = second.result
  services : first.services = second.services

namespace Host

/-- The same host with a provider. -/
def asking (host : Host) (provider : Provider) : Host := { host with provider := some provider }

variable (host : Host) {first second : Provider} (h : first.Alike second)
include h

/-! ## Runs -/

theorem run_alike (w : Workflow) (trace trace' : Trace) (start : String) (context : Context) (services : Services) :
    let run := (host.asking first).run w trace start context services
    let run' := (host.asking second).run w trace' start context services
    run.walk.Alike run'.walk ∧ run.report = run'.report ∧ run.fault = run'.fault := by
  have hg : ((host.asking first).walker w).graph = ((host.asking second).walker w).graph := rfl
  exact Walker.run_alike hg (Tools.visit_asking_alike h host.tools) (host.setup w services) trace trace' start context
    (services.later 1)

/-- **A manual run is the same with providers that give the same.** -/
theorem runManual_alike (w : Workflow) (trigger vars user : Value) (trace trace' : Trace) (services : Services) :
    ((host.asking first).runManual w trigger vars user trace services).Alike
      ((host.asking second).runManual w trigger vars user trace' services) := by
  unfold runManual
  cases prepare w trigger vars user with
  | error fault => exact ⟨rfl, rfl⟩
  | ok begun =>
    obtain ⟨node, context⟩ := begun
    obtain ⟨hwalk, hreport, hfault⟩ := host.run_alike h w trace trace' node.id context services
    dsimp only
    rw [hfault, hreport, hwalk.context, hwalk.state]
    cases ((host.asking second).run w trace' node.id context services).fault <;> exact ⟨rfl, rfl⟩

/-! ## Chat turns -/

variable (conversation : List Message) (user : Value) (assistant : Assistant)

theorem tryTriggers_alike (w : Workflow) (nodes : List Node) (trace trace' : Trace) (services : Services) :
    ((host.asking first).tryTriggers w conversation user assistant nodes trace services).Alike
      ((host.asking second).tryTriggers w conversation user assistant nodes trace' services) := by
  induction nodes generalizing trace trace' services with
  | nil => exact ⟨rfl, rfl⟩
  | cons node nodes ih =>
    rw [tryTriggers, tryTriggers]
    cases freshContext (.dictionary []) conversation user assistant.id with
    | error fault => exact ⟨rfl, rfl⟩
    | ok context =>
      obtain ⟨hwalk, -, hfault⟩ := host.run_alike h w trace trace' node.id context services
      dsimp only
      rw [hfault, hwalk.context, hwalk.state]
      cases ((host.asking second).run w trace' node.id context services).fault with
      | some fault => exact ⟨rfl, rfl⟩
      | none =>
        cases spoken conversation.length ((host.asking second).run w trace' node.id context services).walk.context with
        | some content => exact ⟨rfl, rfl⟩
        | none =>
          obtain ⟨hresult, hservices⟩ := ih ((host.asking first).run w trace node.id context services).trace
            ((host.asking second).run w trace' node.id context services).trace
            ((host.asking second).run w trace' node.id context services).walk.state
          exact ⟨hresult, hservices⟩

theorem tryWorkflows_alike (workflows : List Workflow) (trace trace' : Trace) (services : Services) :
    ((host.asking first).tryWorkflows conversation user assistant workflows trace services).Alike
      ((host.asking second).tryWorkflows conversation user assistant workflows trace' services) := by
  induction workflows generalizing trace trace' services with
  | nil => exact ⟨rfl, rfl⟩
  | cons w workflows ih =>
    rw [tryWorkflows, tryWorkflows]
    split
    · exact ih trace trace' services
    · cases w.chatTriggers? with
      | none => exact ⟨rfl, rfl⟩
      | some triggers =>
        have htried := host.tryTriggers_alike h conversation user assistant w triggers trace trace' services
        dsimp only
        rw [htried.result, htried.services]
        cases ((host.asking second).tryTriggers w conversation user assistant triggers trace' services).result with
        | error fault => exact htried
        | ok attempt =>
          cases attempt with
          | spoke workflow content => exact htried
          | silent =>
            have hrest := ih ((host.asking first).tryTriggers w conversation user assistant triggers trace services).trace
              ((host.asking second).tryTriggers w conversation user assistant triggers trace' services).trace
              ((host.asking second).tryTriggers w conversation user assistant triggers trace' services).services
            exact ⟨hrest.result, hrest.services⟩

theorem askDirectly_alike (trace trace' : Trace) (services : Services) :
    ((host.asking first).askDirectly conversation assistant trace services).Alike
      ((host.asking second).askDirectly conversation assistant trace' services) := by
  have hprompt : ∀ provider, (host.asking provider).directPrompt conversation assistant =
      host.directPrompt conversation assistant := fun _ => rfl
  unfold askDirectly
  rw [hprompt, hprompt]
  cases host.directPrompt conversation assistant with
  | error fault => exact ⟨rfl, rfl⟩
  | ok prompt =>
    dsimp only [asking]
    rw [h services.asked prompt]
    cases (second.generate services.asked prompt).result with
    | ok content => exact ⟨rfl, rfl⟩
    | error fault =>
      dsimp only
      split <;> exact ⟨rfl, rfl⟩

theorem answerBehind_alike {tried tried' : Done Attempt} (htried : tried.Alike tried') :
    ((host.asking first).answerBehind conversation assistant tried).Alike
      ((host.asking second).answerBehind conversation assistant tried') := by
  obtain ⟨hresult, hservices⟩ := htried
  unfold answerBehind
  rw [hresult, hservices]
  cases tried'.result with
  | error fault => exact ⟨rfl, rfl⟩
  | ok attempt =>
    cases attempt with
    | spoke workflow content => exact ⟨rfl, rfl⟩
    | silent =>
      have hasked := host.askDirectly_alike h conversation assistant tried.trace tried'.trace tried'.services
      exact ⟨congrArg (Except.map _) hasked.result, hasked.services⟩

/-- **A chat turn is the same with providers that give the same.** -/
theorem respond_alike (workflows : List Workflow) (history : List Message) (text : Value) (trace trace' : Trace)
    (services : Services) :
    ((host.asking first).respond workflows history text assistant user trace services).Alike
      ((host.asking second).respond workflows history text assistant user trace' services) := by
  cases hsaid : host.message services .user text with
  | error fault =>
    have hturn : ∀ provider, (host.asking provider).message services .user text = .error fault := fun _ => hsaid
    rw [respond, respond, hturn, hturn]
    exact ⟨rfl, rfl⟩
  | ok said =>
    have hturn : ∀ provider, (host.asking provider).message services .user text = .ok said := fun _ => hsaid
    rw [respond_of_said (hturn first), respond_of_said (hturn second)]
    exact host.answerBehind_alike h _ assistant
      (host.tryWorkflows_alike h (history ++ [said]) user assistant workflows trace trace'
        (services.later Message.pace))

omit h

/-! ## Failing backends -/

theorem advice_mem (kind : GenerationFault) : Gateway.advice kind ∈
    ["API quota exceeded. Please check your provider account.",
      "Invalid API key. Please check your API key configuration.",
      "Rate limit exceeded. Please try again in a moment.", "Failed to generate AI response. Please try again."] := by
  cases kind <;> decide

/-- **What users learn of a failing backend is told by the kind of its failures.**

With two backends that reply the same, and fail in ways of one kind, all manual runs and chat turns of a host have the
same results.  When the request of an AI action fails, the action fails, the run ends with it, and the error of both is
that of the kind.  When nothing is said in a chat turn and the direct question fails, the answer is an apology of the
kind.  There are four texts for kinds, whatever a failure says of itself. -/
theorem told_by_kind (host : Host) (gateway : Gateway) :
    (∀ first second : Backend, first.Alike second →
      let one := host.asking (gateway.provider first)
      let other := host.asking (gateway.provider second)
      (∀ w trigger vars user trace services, (one.runManual w trigger vars user trace services).Alike
        (other.runManual w trigger vars user trace services)) ∧
      ∀ workflows history text assistant user trace services,
        (one.respond workflows history text assistant user trace services).Alike
          (other.respond workflows history text assistant user trace services)) ∧
    (∀ backend : Backend,
      let asking := host.asking (gateway.provider backend)
      (∀ w trace start context services front step back prompt fault,
        let run := asking.run w trace start context services
        let error := "AI action failed: " ++ Gateway.advice (Gateway.classify fault)
        run.walk.steps = front ++ step :: back →
        asking.tools.asks step.node step.before { ticks := services.ticks + 1 + Tools.pace * front.length } =
          some prompt →
        backend ((services.asked ++ asking.tools.asked (services.ticks + 1) front).map gateway.request)
          (gateway.request prompt) = .error fault →
        back = [] ∧ step.verdict = .failed (some error) ∧ run.report.ending = "node_failed" ∧
          run.report.error = some error) ∧
      ∀ workflows history text assistant user trace services said prompt fault,
        let tried := asking.tryWorkflows (history ++ [said]) user assistant workflows trace
          (services.later Message.pace)
        let reply := host.said tried.services .assistant (apology ++ " " ++ Gateway.advice (Gateway.classify fault))
        host.message services .user text = .ok said → tried.result = .ok .silent →
        asking.directPrompt (history ++ [said]) assistant = .ok prompt →
        backend (tried.services.asked.map gateway.request) (gateway.request prompt) = .error fault →
        (asking.respond workflows history text assistant user trace services).result =
          .ok { reply, messages := history ++ [said] ++ [reply] }) ∧
    ∀ fault, Gateway.advice (Gateway.classify fault) ∈
      ["API quota exceeded. Please check your provider account.",
        "Invalid API key. Please check your API key configuration.",
        "Rate limit exceeded. Please try again in a moment.", "Failed to generate AI response. Please try again."] := by
  refine ⟨fun first second hbackends => ?_, fun backend => ⟨?_, ?_⟩, fun fault => advice_mem _⟩
  · have h := hbackends.provider gateway
    exact ⟨fun w trigger vars user trace => host.runManual_alike h w trigger vars user trace trace,
      fun workflows history text assistant user trace =>
        host.respond_alike h user assistant workflows history text trace trace⟩
  · intro w trace start context services front step back prompt fault run error hsteps hasks hfault
    exact Walker.run_refused rfl _ trace start context (services.later 1) hsteps hasks hfault
  · intro workflows history text assistant user trace services said prompt fault tried reply hsaid hsilent hprompt hfault
    have hturn : (host.asking (gateway.provider backend)).message services .user text = .ok said := hsaid
    have hasked : ((host.asking (gateway.provider backend)).askDirectly (history ++ [said]) assistant tried.trace
        tried.services).result = .ok reply := askDirectly_of_refused rfl hprompt hfault
    rw [respond_of_said hturn, answerBehind, show _ = _ from hsilent]
    exact congrArg (Except.map _) hasked

/-- A backend that refuses every request, and says why. -/
def refusing (text : String) : Backend := fun _ _ => .error (.outside .rateLimit text)

/-- A workflow of an AI action. -/
def asker : Workflow :=
  { id := "asker", nodes := [{ id := "a", kind := .aiAction, data := [("prompt", .text "Hello")] }] }

/-- What a backend says besides cannot be told from runs and turns of a host. -/
theorem told_by_kind_refusing :
    let host := Gateway.usualHost (refusing "unused")
    let one := host.asking (Gateway.usual.provider (refusing "key 1234"))
    let other := host.asking (Gateway.usual.provider (refusing "https://h.example/?key=5678"))
    (one.respond [asker] [] (.text "m") Gateway.strict (.int 1) [] {}).result =
        (other.respond [asker] [] (.text "m") Gateway.strict (.int 1) [] {}).result ∧
      (one.run asker [] "a" { user := .name "u" } {}).report.error =
        some "AI action failed: Rate limit exceeded. Please try again in a moment." ∧
      ∃ answer, (one.respond [] [] (.text "m") Gateway.strict (.int 1) [] {}).result = .ok answer ∧
        answer.reply.content = apology ++ " Rate limit exceeded. Please try again in a moment." := by
  intro host one other
  obtain ⟨hsame, hbackend, -⟩ := told_by_kind host Gateway.usual
  have hkind : (refusing "key 1234").Alike (refusing "https://h.example/?key=5678") :=
    fun _ _ => .failure (by decide +kernel)
  obtain ⟨-, hturns⟩ := hsame _ _ hkind
  obtain ⟨hruns, hapology⟩ := hbackend (refusing "key 1234")
  obtain ⟨step, back, prompt, hsteps, hasks⟩ : ∃ step back prompt,
      (one.run asker [] "a" { user := .name "u" } {}).walk.steps = [] ++ step :: back ∧
        one.tools.asks step.node step.before { ticks := 1 } = some prompt := ⟨_, _, _, rfl, rfl⟩
  obtain ⟨-, -, -, herror⟩ := hruns asker [] "a" _ {} [] step back prompt _ hsteps hasks rfl
  obtain ⟨prompt, hprompt⟩ : ∃ prompt,
      one.directPrompt ([] ++ [host.said {} .user "m"]) Gateway.strict = .ok prompt := ⟨_, rfl⟩
  have hanswer := hapology [] [] (.text "m") Gateway.strict (.int 1) [] {} _ prompt _ rfl rfl hprompt rfl
  exact ⟨(hturns [asker] [] (.text "m") Gateway.strict (.int 1) [] {}).result, herror, _, hanswer, rfl⟩

end Host

end Chatflow
