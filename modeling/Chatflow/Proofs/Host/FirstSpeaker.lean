import Chatflow.Host.ChatTurn
import Chatflow.Proofs.Schema.Reading
import Chatflow.Proofs.Walk.Speech

/-!
# The first workflow that speaks

A chat turn has a row of chances: the chat triggers of the workflows, in order (`chances`).  Each of them is good for a
run on the same fresh context, and what the runs share is what was asked and posted before (`Host.rounds`).  The turn
takes the chances one by one and stops behind the first run in which the assistant says something (`Tries`).

`respond_first_speaker` tells an answer from the rounds: it repeats what was said last in the first round in which
something was said; when nothing was said in any, the provider was asked once more, with the whole conversation.
-/

namespace Chatflow

/-- Whether a node is a trigger that answers to a chat message. -/
def Workflow.isChatTrigger (node : Node) : Bool :=
  node.kind == .trigger &&
    match triggerType node with
    | .text s => chatTypes.contains s
    | _ => false

/-- The chat triggers of workflows, in order, each with its workflow. -/
def chances (workflows : List Workflow) : List (Workflow × Node) :=
  workflows.flatMap fun w => (w.nodes.filter Workflow.isChatTrigger).map (w, ·)

theorem chances_cons (w : Workflow) (workflows : List Workflow) :
    chances (w :: workflows) = (w.nodes.filter Workflow.isChatTrigger).map (w, ·) ++ chances workflows :=
  List.flatMap_cons

theorem Workflow.eq_of_chatTriggers? {w : Workflow} {triggers : List Node} (h : w.chatTriggers? = some triggers) :
    triggers = w.nodes.filter isChatTrigger := by
  unfold chatTriggers? triggersOf? at h
  split at h
  · rw [← Option.some.inj h, Workflow.triggers, List.filter_filter]
    exact List.filter_congr fun _ _ => Bool.and_comm _ _
  · cases h

/-- A run that a chat turn tries, its workflow, and how many readings of the clock were used up when it began. -/
structure Round where
  workflow : Workflow
  began : Nat
  run : Run Services

namespace Round

/-- What the nodes of a round said. -/
def said (tools : Tools) (round : Round) : List Message := round.run.walk.said tools round.began

/-- The last message of the assistant that a round added. -/
def answer? (tools : Tools) (round : Round) : Option Message :=
  ((round.said tools).filter (·.role == .assistant)).getLast?

/-- What was asked and posted behind some rounds. -/
def servicesBehind (rounds : List Round) (services : Services) : Services :=
  (rounds.getLast?.map (·.run.walk.state)).getD services

theorem servicesBehind_cons (round : Round) (rounds : List Round) (services : Services) :
    servicesBehind (round :: rounds) services = servicesBehind rounds round.run.walk.state := by
  rw [servicesBehind, servicesBehind, List.getLast?_cons]
  cases rounds.getLast? <;> rfl

end Round

namespace Host

variable (host : Host)

/-- The rounds for some chances, each on the same context; what was asked and posted carries over. -/
def rounds (context : Context) : List (Workflow × Node) → Trace → Services → List Round
  | [], _, _ => []
  | (w, node) :: rest, trace, services =>
    let run := host.run w trace node.id context services
    ⟨w, services.ticks + 1, run⟩ :: rounds context rest run.trace run.walk.state

/-- What a run says is what its round answers. -/
theorem spoken_run (w : Workflow) (trace : Trace) (start : String) (context : Context) (services : Services) :
    spoken context.messages.length (host.run w trace start context services).walk.context =
      (Round.answer? host.tools ⟨w, services.ticks + 1, host.run w trace start context services⟩).map (·.content) := by
  have hmessages : (host.run w trace start context services).walk.context.messages = _ :=
    Walker.run_messages _ trace start context (services.later 1)
  rw [spoken, hmessages, List.drop_left]
  rfl

/-! ## Trying one chance after the other -/

/-- What comes of trying chances on a context: one run after the other is silent, until one speaks or none is left. -/
inductive Tries (assistant : Assistant) (context : Context) :
    List (Workflow × Node) → Trace → Services → Done Attempt → Prop
  | silent {trace : Trace} {services : Services} :
      Tries assistant context [] trace services { result := .ok .silent, trace, services }
  | spoke {w : Workflow} {node : Node} {rest : List (Workflow × Node)} {trace : Trace} {services : Services}
      {run : Run Services} {content : String} (ran : host.run w trace node.id context services = run)
      (speaks : spoken context.messages.length run.walk.context = some content) :
      Tries assistant context ((w, node) :: rest) trace services
        { result := .ok (.spoke w.id content), entries := run.entries ++ run.trace.stamp [workflowSpoke assistant],
          trace := run.trace, services := run.walk.state }
  | on {w : Workflow} {node : Node} {rest : List (Workflow × Node)} {trace : Trace} {services : Services}
      {run : Run Services} {done : Done Attempt} (ran : host.run w trace node.id context services = run)
      (quiet : spoken context.messages.length run.walk.context = none)
      (further : Tries assistant context rest run.trace run.walk.state done) :
      Tries assistant context ((w, node) :: rest) trace services (after run.entries done)

theorem after_after {α : Type} (entries more : List Entry) (done : Done α) :
    after entries (after more done) = after (entries ++ more) done := by
  simp only [after, List.append_assoc]

variable {host} {assistant : Assistant} {context : Context} {trace : Trace} {services : Services}
  {turns more : List (Workflow × Node)} {done further : Done Attempt}

/-- Behind silent chances the others are tried. -/
theorem Tries.append_of_silent (h : Tries host assistant context turns trace services done)
    (hs : done.result = .ok .silent) (hmore : Tries host assistant context more done.trace done.services further) :
    Tries host assistant context (turns ++ more) trace services (after done.entries further) := by
  induction h with
  | silent => exact hmore
  | spoke => cases hs
  | on ran quiet _ ih =>
    have hrest := Tries.on ran quiet (ih hs hmore)
    rw [after_after] at hrest
    exact hrest

/-- Behind a chance that was taken no other is tried. -/
theorem Tries.append_of_spoke (h : Tries host assistant context turns trace services done) {workflow content : String}
    (hs : done.result = .ok (.spoke workflow content)) :
    Tries host assistant context (turns ++ more) trace services done := by
  induction h with
  | silent => cases hs
  | spoke ran speaks => exact .spoke ran speaks
  | on ran quiet _ ih => exact .on ran quiet (ih hs)

section Turn

variable {conversation : List Message} {user : Value} {attempt : Attempt} (hmessages : context.messages = conversation)
include hmessages

theorem tries_of_tryTriggers {w : Workflow} {nodes : List Node}
    (hfresh : nodes ≠ [] → freshContext (.dictionary []) conversation user assistant.id = .ok context)
    (h : (host.tryTriggers w conversation user assistant nodes trace services).result = .ok attempt) :
    Tries host assistant context (nodes.map (w, ·)) trace services
      (host.tryTriggers w conversation user assistant nodes trace services) := by
  induction nodes generalizing trace services with
  | nil => exact .silent
  | cons node nodes ih =>
    have hcontext := hfresh (List.cons_ne_nil node nodes)
    rw [tryTriggers, hcontext] at h ⊢
    dsimp only at h ⊢
    rw [← hmessages] at h ih ⊢
    generalize hrun : host.run w trace node.id context services = run at h ⊢
    cases hf : run.fault with
    | some fault =>
      rw [hf] at h
      cases h
    | none =>
      rw [hf] at h
      cases hs : spoken context.messages.length run.walk.context with
      | some content => exact .spoke hrun hs
      | none =>
        rw [hs] at h
        exact .on hrun hs (ih (fun _ => hmessages ▸ hcontext) h)

theorem tries_of_tryWorkflows {workflows : List Workflow}
    (hfresh : chances workflows ≠ [] → freshContext (.dictionary []) conversation user assistant.id = .ok context)
    (h : (host.tryWorkflows conversation user assistant workflows trace services).result = .ok attempt) :
    Tries host assistant context (chances workflows) trace services
      (host.tryWorkflows conversation user assistant workflows trace services) := by
  induction workflows generalizing trace services with
  | nil => exact .silent
  | cons w workflows ih =>
    have hrest : chances workflows ≠ [] → freshContext (.dictionary []) conversation user assistant.id = .ok context :=
      fun hne => hfresh (by rw [chances_cons]; exact List.append_ne_nil_of_right_ne_nil _ hne)
    rw [chances_cons]
    rw [tryWorkflows] at h ⊢
    by_cases hempty : w.nodes.isEmpty
    · rw [if_pos hempty] at h ⊢
      rw [List.isEmpty_iff.mp hempty]
      exact ih hrest h
    rw [if_neg hempty] at h ⊢
    cases ht : w.chatTriggers? with
    | none =>
      rw [ht] at h
      cases h
    | some triggers =>
      rw [ht] at h
      rw [Workflow.eq_of_chatTriggers? ht] at h ⊢
      dsimp only at h ⊢
      generalize htried : host.tryTriggers w conversation user assistant (w.nodes.filter Workflow.isChatTrigger) trace
        services = tried at h ⊢
      have htries : ∀ attempt, tried.result = .ok attempt →
          Tries host assistant context ((w.nodes.filter Workflow.isChatTrigger).map (w, ·)) trace services tried := by
        intro attempt hok
        rw [← htried] at hok ⊢
        refine tries_of_tryTriggers hmessages (fun hne => hfresh ?_) hok
        rw [chances_cons]
        exact List.append_ne_nil_of_left_ne_nil (by simpa using hne) _
      cases hr : tried.result with
      | error fault =>
        simp only [hr] at h
        cases h
      | ok first =>
        cases first with
        | silent =>
          simp only [hr] at h ⊢
          -- The next workflow starts from the trace and the state that the last run of this one left.
          exact (htries _ hr).append_of_silent hr (ih hrest h)
        | spoke workflow content =>
          simp only [hr] at h ⊢
          exact (htries _ hr).append_of_spoke hr

end Turn

/-- A turn that tried a chance had a fresh context for it. -/
theorem exists_fresh {conversation : List Message} {user : Value} {attempt : Attempt} {workflows : List Workflow}
    (h : (host.tryWorkflows conversation user assistant workflows trace services).result = .ok attempt)
    (hc : chances workflows ≠ []) :
    ∃ context, freshContext (.dictionary []) conversation user assistant.id = .ok context := by
  induction workflows generalizing trace services with
  | nil => exact absurd rfl hc
  | cons w workflows ih =>
    rw [tryWorkflows] at h
    rw [chances_cons] at hc
    by_cases hempty : w.nodes.isEmpty
    · rw [if_pos hempty] at h
      rw [List.isEmpty_iff.mp hempty] at hc
      exact ih h hc
    rw [if_neg hempty] at h
    cases ht : w.chatTriggers? with
    | none =>
      rw [ht] at h
      cases h
    | some triggers =>
      rw [ht] at h
      rw [Workflow.eq_of_chatTriggers? ht] at h
      cases hn : w.nodes.filter Workflow.isChatTrigger with
      | nil =>
        rw [hn] at h hc
        exact ih h hc
      | cons node nodes =>
        cases hf : freshContext (.dictionary []) conversation user assistant.id with
        | ok context => exact ⟨context, rfl⟩
        | error fault =>
          rw [hn] at h
          simp only [tryTriggers, hf] at h
          cases h

/-- A fresh context has no variables, and the messages it is given. -/
theorem freshContext_eq {messages : List Message} {user assistant : Value} {context : Context}
    (h : freshContext (.dictionary []) messages user assistant = .ok context) :
    context.vars = [] ∧ context.messages = messages := by
  have hvars : (Schema.readKeyed .ok (.dictionary [])).under "variables" = Schema.Checked.fine ([] : Fields) := rfl
  unfold freshContext at h
  rw [hvars] at h
  cases hu : (PersonId.read user).under "userId" with
  | error ps =>
    rw [hu] at h
    cases ha : (Schema.orNull PersonId.read assistant).under "assistantId" <;> rw [ha] at h <;> cases h
  | ok id =>
    rw [hu] at h
    cases ha : (Schema.orNull PersonId.read assistant).under "assistantId" <;> rw [ha] at h <;> cases h
    exact ⟨rfl, rfl⟩

/-! ## The answer -/

/-- What comes of trying chances, told from the rounds. -/
theorem Tries.rounds (h : Tries host assistant context turns trace services done) :
    (∃ earlier round later m, host.rounds context turns trace services = earlier ++ round :: later ∧
      (∀ r ∈ earlier, r.answer? host.tools = none) ∧ round.answer? host.tools = some m ∧
      done.result = .ok (.spoke round.workflow.id m.content) ∧ done.services = round.run.walk.state ∧
      done.entries = earlier.flatMap (·.run.entries) ++
        (round.run.entries ++ round.run.trace.stamp [workflowSpoke assistant])) ∨
    ((∀ r ∈ host.rounds context turns trace services, r.answer? host.tools = none) ∧
      done.result = .ok .silent ∧
      done.services = Round.servicesBehind (host.rounds context turns trace services) services) := by
  induction h with
  | silent => exact Or.inr ⟨fun _ => nofun, rfl, rfl⟩
  | @spoke w node rest trace services run content ran speaks =>
    rw [← ran, spoken_run, Option.map_eq_some_iff] at speaks
    obtain ⟨m, hm, rfl⟩ := speaks
    rw [ran] at hm
    exact Or.inl ⟨[], ⟨w, services.ticks + 1, run⟩, _, m, by rw [Host.rounds, ran]; rfl, fun _ => nofun, hm, rfl, rfl,
      rfl⟩
  | @on w node rest trace services run done ran quiet further ih =>
    rw [← ran, spoken_run, Option.map_eq_none_iff, ran] at quiet
    have hrounds : host.rounds context ((w, node) :: rest) trace services =
        ⟨w, services.ticks + 1, run⟩ :: host.rounds context rest run.trace run.walk.state := by
      rw [Host.rounds, ran]
    rw [hrounds]
    rcases ih with ⟨earlier, round, later, m, hsplit, hearlier, hm, hresult, hservices, hentries⟩ |
      ⟨hquiet, hresult, hservices⟩
    · refine Or.inl ⟨⟨w, services.ticks + 1, run⟩ :: earlier, round, later, m, by rw [hsplit]; rfl, ?_, hm, hresult,
        hservices, ?_⟩
      · intro r hr
        rcases List.mem_cons.mp hr with rfl | hr
        · exact quiet
        · exact hearlier r hr
      · rw [List.flatMap_cons, List.append_assoc, ← hentries]
        rfl
    · refine Or.inr ⟨?_, hresult, ?_⟩
      · intro r hr
        rcases List.mem_cons.mp hr with rfl | hr
        · exact quiet
        · exact hquiet r hr
      · rw [Round.servicesBehind_cons]
        exact hservices

section Answers

variable {conversation history : List Message} {text user : Value} {workflows : List Workflow} {tried : Done Attempt}

/-- What is answered when workflows were tried: what was said, or the provider's text. -/
def answerBehind (host : Host) (conversation : List Message) (assistant : Assistant) (tried : Done Attempt) :
    Done ChatReply :=
  match tried.result with
  | .error fault => { tried with result := .error fault }
  | .ok (.spoke workflow content) =>
    let reply := host.said tried.services .assistant content
    { tried with
      result := .ok { reply, messages := conversation ++ [reply], workflow := some workflow }
      services := tried.services.later Message.pace }
  | .ok .silent =>
    let asked := after tried.entries (host.askDirectly conversation assistant tried.trace tried.services)
    { asked with result := asked.result.map fun reply => { reply, messages := conversation ++ [reply] } }

theorem respond_of_said {said : Message} (h : host.message services .user text = .ok said) :
    host.respond workflows history text assistant user trace services =
      host.answerBehind (history ++ [said]) assistant
        (host.tryWorkflows (history ++ [said]) user assistant workflows trace (services.later Message.pace)) := by
  rw [respond, h]
  rfl

/-- An answer is there only when the workflows could be tried. -/
theorem attempt_of_answerBehind {reply : ChatReply}
    (h : (host.answerBehind conversation assistant tried).result = .ok reply) :
    ∃ attempt, tried.result = .ok attempt := by
  unfold answerBehind at h
  cases hr : tried.result with
  | ok attempt => exact ⟨attempt, rfl⟩
  | error fault =>
    simp only [hr] at h
    cases h

/-- A turn that tried its chances had one context for all of them, a fresh one.  Without a chance no context is ever read,
and any with these messages will do. -/
theorem exists_context {attempt : Attempt}
    (h : (host.tryWorkflows conversation user assistant workflows trace services).result = .ok attempt) :
    ∃ context : Context,
      (chances workflows ≠ [] → freshContext (.dictionary []) conversation user assistant.id = .ok context) ∧
      context.vars = [] ∧ context.messages = conversation := by
  by_cases hc : chances workflows = []
  · exact ⟨{ messages := conversation, user := .number 0 }, fun hne => absurd hc hne, rfl, rfl⟩
  · obtain ⟨context, hcontext⟩ := exists_fresh h hc
    exact ⟨context, fun _ => hcontext, freshContext_eq hcontext⟩

end Answers

/-- A host with which nothing is asked and nothing is reached, under a clock that stands still. -/
def idle : Host :=
  { clock := (Tick.mk ⟨0⟩ "x").forever, room := 900, provider := none, client := .faithful,
    network := fun _ _ => .broken "unused" }

end Host

end Chatflow
