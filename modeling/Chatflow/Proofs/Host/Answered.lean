import Chatflow.Proofs.Host.Silence

/-!
# Which chat turns are answered

A provider that responds gives a text or says that it generated none (`Provider.Responds`).  With such a provider a
chat turn still has no answer when it meets a workflow whose triggers cannot be chosen from before a workflow speaks, or
when it asks directly and the temperature of the assistant has no hundredth (`respond_answers_iff`).  What else the
nodes of the workflows hold makes no difference, unless the cap is an integer below zero that is too long for a text:
under such a cap nothing is said, and there is an answer only when no chance has somewhere to begin.

* `tryWorkflows_of_refused`: what workflows come to under a cap that no run may reach.
* `tryWorkflows_iff`: what they come to under any cap that is not infinite, told from the rounds.
-/

namespace Chatflow

/-- Whatever a provider is asked, it gives a text or says that it generated none. -/
def Provider.Responds (provider : Provider) : Prop :=
  ∀ earlier prompt, (∃ text, (provider.generate earlier prompt).result = .ok (.text text)) ∨
    ∃ fault, (provider.generate earlier prompt).result = .error fault ∧ fault.isGeneration = true

theorem Script.responds_provider : (Script.provider {}).Responds := fun _ _ => Or.inl ⟨"Mock response", rfl⟩

/-- A round without steps answers nothing. -/
theorem Round.answer?_of_steps {tools : Tools} {round : Round} (h : round.run.walk.steps = []) :
    round.answer? tools = none := by
  rw [answer?, said, Walk.said, h]
  rfl

theorem forall_mem_chances_cons {w : Workflow} {workflows : List Workflow} {p : Node → Prop} :
    (∀ turn ∈ chances (w :: workflows), p turn.2) ↔
      (∀ node ∈ w.nodes.filter Workflow.isChatTrigger, p node) ∧ ∀ turn ∈ chances workflows, p turn.2 := by
  rw [chances_cons, List.forall_mem_append, List.forall_mem_map]

namespace Host

/-! ## Caps that cannot be told -/

section Refused

variable {host : Host} {conversation : List Message} {assistant : Assistant} {user : Value} {context : Context}
  {cap : Cap} {fault : Fault} (hcap : Cap.ofValue? host.settings.maxExecutions = some cap) (hnone : cap.allowed = 0)
  (hrefused : cap.reached.escape? = some fault)
include hcap hnone hrefused

/-- Nothing is answered in a round. -/
theorem answer?_of_refused {turns : List (Workflow × Node)} {trace : Trace} {services : Services} :
    ∀ round ∈ host.rounds context turns trace services, round.answer? host.tools = none := by
  intro round hmem
  obtain ⟨i, hi⟩ := List.getElem?_of_mem hmem
  obtain ⟨node, trace', services', -, hrun⟩ := exists_chance hi
  refine Round.answer?_of_steps ?_
  rw [hrun]
  exact (run_of_refused hcap hnone hrefused round.workflow trace' node.id context services').1

variable (hfresh : freshContext (.dictionary []) conversation user assistant.id = .ok context)
include hfresh

/-- The triggers of a workflow are silent when none of them has somewhere to begin, and else a fault. -/
theorem tryTriggers_of_refused (w : Workflow) (nodes : List Node) (trace : Trace) (services : Services) :
    (host.tryTriggers w conversation user assistant nodes trace services).result =
      if ∀ node ∈ nodes, node.id = "" then .ok .silent else .error fault := by
  induction nodes generalizing trace services with
  | nil => rw [if_pos (List.forall_mem_nil _)]; rfl
  | cons node nodes ih =>
    obtain ⟨hsteps, hfault⟩ := run_of_refused hcap hnone hrefused w trace node.id context services
    rw [tryTriggers, hfresh]
    dsimp only
    rw [hfault]
    by_cases h : node.id = ""
    · have hquiet : spoken conversation.length (host.run w trace node.id context services).walk.context = none := by
        rw [← (freshContext_eq hfresh).2, spoken_run, Round.answer?_of_steps hsteps]
        rfl
      rw [if_pos h, hquiet]
      simp only [List.forall_mem_cons, h, true_and]
      exact ih _ _
    · simp only [List.forall_mem_cons, h, false_and, if_false]

/-- **Workflows under a cap that no run may reach**: they never speak, and are silent when the triggers of each can be
chosen from and none that is chosen has somewhere to begin. -/
theorem tryWorkflows_of_refused (workflows : List Workflow) (trace : Trace) (services : Services) :
    let tried := host.tryWorkflows conversation user assistant workflows trace services
    (∀ workflow content, tried.result ≠ .ok (.spoke workflow content)) ∧
      (tried.result = .ok .silent ↔
        workflows.all Workflow.canChoose = true ∧ ∀ turn ∈ chances workflows, turn.2.id = "") := by
  induction workflows generalizing trace services with
  | nil => exact ⟨by simp [tryWorkflows], iff_of_true rfl ⟨rfl, List.forall_mem_nil _⟩⟩
  | cons w workflows ih =>
    rw [tryWorkflows, List.all_cons, Bool.and_eq_true, forall_mem_chances_cons (p := (·.id = ""))]
    by_cases hempty : w.nodes.isEmpty
    · have hw : w.nodes = [] := List.isEmpty_iff.mp hempty
      have hchoose : w.canChoose = true := by rw [Workflow.canChoose, Workflow.triggers, hw]; rfl
      rw [if_pos hempty, hw]
      simpa [hchoose] using ih trace services
    rw [if_neg hempty, Workflow.chatTriggers?_eq]
    by_cases hchoose : w.canChoose = true
    · rw [if_pos hchoose]
      have htriggers := tryTriggers_of_refused hcap hnone hrefused hfresh w (w.nodes.filter Workflow.isChatTrigger)
        trace services
      dsimp only
      by_cases hnowhere : ∀ node ∈ w.nodes.filter Workflow.isChatTrigger, node.id = ""
      · rw [if_pos hnowhere] at htriggers
        simp only [htriggers, hchoose, true_and, and_iff_right hnowhere]
        exact ih _ _
      · rw [if_neg hnowhere] at htriggers
        simp only [htriggers]
        exact ⟨by simp, iff_of_false (by simp) fun h => hnowhere h.2.1⟩
    · rw [if_neg hchoose]
      exact ⟨by simp, iff_of_false (by simp) fun h => hchoose h.1.1⟩

end Refused

/-- **What workflows come to**, under a cap that is a number and not infinite: they speak when something is said in a
round for those in front, and they are silent when nothing is, the triggers of each can be chosen from, and the cap may
be reached, unless no trigger that is chosen has somewhere to begin. -/
theorem tryWorkflows_iff {host : Host} {conversation : List Message} {assistant : Assistant} {user : Value}
    {context : Context} {cap : Cap} (hcap : Cap.ofValue? host.settings.maxExecutions = some cap)
    (hfinite : host.settings.maxExecutions ≠ .real (.infinite false))
    (hfresh : freshContext (.dictionary []) conversation user assistant.id = .ok context) (workflows : List Workflow)
    (trace : Trace) (services : Services) :
    let tried := host.tryWorkflows conversation user assistant workflows trace services
    let rounds := host.rounds context (chances (Workflow.front workflows)) trace services
    ((∃ workflow content, tried.result = .ok (.spoke workflow content)) ↔
      ∃ round ∈ rounds, ∃ m, round.answer? host.tools = some m) ∧
    (tried.result = .ok .silent ↔
      (∀ round ∈ rounds, round.answer? host.tools = none) ∧ workflows.all Workflow.canChoose = true ∧
        (cap.reached.escape? = none ∨ ∀ turn ∈ chances workflows, turn.2.id = "")) := by
  intro tried rounds
  rcases Cap.escape?_reached hcap with hreached | ⟨hinfinite, -⟩ | ⟨hnone, hrefused, -⟩
  · obtain ⟨-, -, hspoke, hsilent⟩ :=
      host.tryWorkflows_front conversation user assistant workflows trace services
    obtain ⟨hspeaks, hquiet⟩ := (tries_front hcap hreached hfresh workflows trace services).result_iff
    simp only [hreached, true_or, and_true]
    exact ⟨(exists_congr fun workflow => exists_congr fun content => hspoke workflow content).trans hspeaks,
      hsilent.trans (and_congr_left' hquiet)⟩
  · exact absurd hinfinite hfinite
  · have hquiet : ∀ round ∈ rounds, round.answer? host.tools = none := answer?_of_refused hcap hnone hrefused
    obtain ⟨hspoke, hsilent⟩ := tryWorkflows_of_refused hcap hnone hrefused hfresh workflows trace services
    refine ⟨iff_of_false (fun ⟨workflow, content, h⟩ => hspoke workflow content h) fun ⟨round, hmem, m, hm⟩ => ?_, ?_⟩
    · cases (hquiet round hmem).symm.trans hm
    · rw [and_iff_right hquiet, hrefused]
      simpa using hsilent

/-! ## Answers -/

section Responding

variable {host : Host} {provider : Provider} (hprovider : host.provider = some provider)
  (hresponds : provider.Responds) (conversation : List Message) (assistant : Assistant)
include hprovider hresponds

/-- A provider that responds answers a direct question for every temperature that has a hundredth. -/
theorem askDirectly_answers_iff (trace : Trace) (services : Services) :
    (∃ reply, (host.askDirectly conversation assistant trace services).result = .ok reply) ↔
      ∃ temperature, hundredth assistant.temperature = .ok temperature := by
  unfold askDirectly directPrompt
  rw [hprovider]
  cases hundredth assistant.temperature with
  | error fault => exact ⟨fun ⟨_, h⟩ => (nomatch h), fun ⟨_, h⟩ => (nomatch h)⟩
  | ok temperature =>
    refine ⟨fun _ => ⟨temperature, rfl⟩, fun _ => ?_⟩
    dsimp only [bind, Except.bind, pure, Except.pure]
    generalize Prompt.ofTurns _ _ _ _ = prompt
    rcases hresponds services.asked prompt with ⟨text, htext⟩ | ⟨fault, hfault, hgen⟩
    · rw [htext]
      exact ⟨_, rfl⟩
    · rw [hfault]
      dsimp only
      rw [if_pos hgen]
      exact ⟨_, rfl⟩

/-- When something is answered behind workflows that were tried. -/
theorem answerBehind_answers_iff (tried : Done Attempt) :
    (∃ reply, (host.answerBehind conversation assistant tried).result = .ok reply) ↔
      (∃ workflow content, tried.result = .ok (.spoke workflow content)) ∨
        (tried.result = .ok .silent ∧ ∃ temperature, hundredth assistant.temperature = .ok temperature) := by
  rw [← askDirectly_answers_iff hprovider hresponds conversation assistant tried.trace tried.services]
  unfold answerBehind
  cases tried.result with
  | error fault => simp
  | ok attempt =>
    cases attempt with
    | spoke workflow content => simp
    | silent =>
      dsimp only [after]
      cases (host.askDirectly conversation assistant tried.trace tried.services).result <;> simp [Except.map]

end Responding

/-- **Which chat turns are answered**, when the provider responds, the cap is a number and not infinite, and the ids of
the people can be read: those in which something is said in a round for the workflows in front of the first whose
triggers cannot be chosen from, and those in which the type of every trigger of every workflow can be looked up and the
temperature of the assistant has a hundredth, so that the provider can be asked directly.  For the latter the cap must be
one that a run may reach, or every chat trigger one whose id is empty.  All others end by a fault. -/
theorem respond_answers_iff (host : Host) (provider : Provider) (workflows : List Workflow) (history : List Message)
    (text : String) (assistant : Assistant) (user : Value) (trace : Trace) (services : Services) (cap : Cap)
    (who : PersonId) (whom : Option PersonId) (hprovider : host.provider = some provider)
    (hresponds : provider.Responds) (hcap : Cap.ofValue? host.settings.maxExecutions = some cap)
    (hfinite : host.settings.maxExecutions ≠ .real (.infinite false))
    (huser : PersonId.read user = .ok who) (hassistant : Schema.orNull PersonId.read assistant.id = .ok whom) :
    let said := host.said services .user text
    let context : Context := { messages := history ++ [said], user := who, assistant := whom }
    (∃ reply, (host.respond workflows history (.text text) assistant user trace services).result = .ok reply) ↔
      (∃ round ∈ host.rounds context (chances (Workflow.front workflows)) trace (services.later Message.pace),
        ∃ m, round.answer? host.tools = some m) ∨
      ((∀ w ∈ workflows, ∀ node ∈ w.nodes, node.kind = .trigger →
          (Workflow.triggerType node).isLookupKey = true) ∧
        (cap.reached.escape? = none ∨ ∀ turn ∈ chances workflows, turn.2.id = "") ∧
        ∃ temperature, hundredth assistant.temperature = .ok temperature) := by
  intro said context
  have hsaid : host.message services .user (.text text) = .ok said := rfl
  have hfresh : freshContext (.dictionary []) (history ++ [said]) user assistant.id = .ok context :=
    freshContext_of_read huser hassistant
  have hall : (∀ w ∈ workflows, ∀ node ∈ w.nodes, node.kind = .trigger →
      (Workflow.triggerType node).isLookupKey = true) ↔ workflows.all Workflow.canChoose = true := by
    simp only [List.all_eq_true, Workflow.canChoose_iff]
  obtain ⟨hspoke, hsilent⟩ :=
    tryWorkflows_iff hcap hfinite hfresh workflows trace (services.later Message.pace)
  rw [respond_of_said hsaid, answerBehind_answers_iff hprovider hresponds, hall, hspoke, hsilent]
  -- When something is said in a round, it does not matter whether the provider would have answered.
  generalize hrounds : host.rounds context (chances (Workflow.front workflows)) trace (services.later Message.pace) =
    rounds
  by_cases hsaid : ∃ round ∈ rounds, ∃ m, round.answer? host.tools = some m
  · simp only [hsaid, true_or]
  · have hnone : ∀ round ∈ rounds, round.answer? host.tools = none := fun round hmem =>
      Option.eq_none_iff_forall_ne_some.mpr fun m hm => hsaid ⟨round, hmem, m, hm⟩
    simp only [hsaid, false_or, and_iff_right hnone, and_assoc]

/-- A workflow whose trigger has a type. -/
def typedTrigger (type : Value) : Value :=
  .ofFields [("id", .text "w"), ("nodes", .list [.ofFields [("id", .text "t"), ("type", .text "trigger"),
    ("data", .ofFields [("triggerType", type)])]])]

/-- A workflow that greets. -/
def greeter : Workflow :=
  { id := "greeter"
    nodes := [{ id := "t", kind := .trigger, data := [("triggerType", .text "message")] },
      { id := "g", kind := .output, data := [("outputType", .text "message"), ("content", .text "hello")] }]
    connections := [{ id := "1", source := "t", target := "g" }] }

/-- A host with a provider that always gives the same text. -/
def mockHost : Host := { Host.idle with provider := some (Script.provider {}) }

/-- A chat turn of this host. -/
def mockTurn (workflows : List Workflow) : Done ChatReply :=
  mockHost.respond workflows [] (.text "m") { name := .text "A" } (.int 1) [] {}

/-- Behind a workflow that speaks it does not matter that no trigger can be chosen from. -/
theorem respond_answers_iff_greeter : (Script.provider {}).Responds ∧
    Cap.ofValue? mockHost.settings.maxExecutions = some ⟨50, .capped⟩ ∧
    ∃ w, Workflow.read (typedTrigger (.list [.text "message"])) = .ok w ∧ w.canChoose = false ∧
      ∃ reply, (mockTurn [greeter, w]).result = .ok reply := by
  refine ⟨Script.responds_provider, rfl, _, rfl, by decide +kernel, ?_⟩
  refine (respond_answers_iff mockHost (Script.provider {}) _ [] "m" { name := .text "A" } (.int 1) [] {}
    ⟨50, .capped⟩ (.number 1) none rfl Script.responds_provider rfl nofun rfl rfl).mpr (Or.inl ?_)
  simp only [← Option.isSome_iff_exists, ← List.any_eq_true]
  decide +kernel

/-- **A trigger whose type is a list leaves a chat turn without an answer**, though the provider responds. -/
theorem mockTurn_not_answered : (Script.provider {}).Responds ∧
    ∃ w, Workflow.read (typedTrigger (.list [.text "message"])) = .ok w ∧
      (mockTurn [w]).result = .error (.mistyped "the type of a trigger cannot be looked up") :=
  ⟨Script.responds_provider, _, rfl, rfl⟩

end Host

end Chatflow
