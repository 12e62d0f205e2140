import Chatflow.Host.Basic

/-!
# Chat turns

A message of a user is answered by the first workflow that speaks: its chat triggers are tried in order, each on a fresh
context that holds the conversation.  When none speaks, the provider is asked directly; when that gives no text, the
answer is an apology.
-/

namespace Chatflow

/-- The assistant that a user talks to. -/
structure Assistant where
  name : Value
  model : Value := .text Tools.defaultModel
  temperature : Value := .int 30
  instructions : Value := .null
  id : Value := .null

/-- The answer to a message, and the conversation with both. -/
structure ChatReply where
  reply : Message
  messages : List Message
  workflow : Option String := none

namespace ChatReply

/-- An answer on the wire. -/
def wire (r : ChatReply) : Except Value.Fault Value := do
  return .ofFields [("response", ← r.reply.wire), ("messages", ← Message.wires r.messages),
    ("workflowExecuted", .bool r.workflow.isSome)]

end ChatReply

/-- What came of trying workflows: one of them spoke, or none did. -/
inductive Attempt where
  | spoke (workflow : String) (content : String)
  | silent

namespace Host

/-- How an apology begins. -/
def apology : String := "I apologize, but I'm having trouble connecting to the AI service right now."

/-- What the assistant said behind the first messages of a run, the last of it. -/
def spoken (before : Nat) (context : Context) : Option String :=
  (((context.messages.drop before).filter (·.role == .assistant)).getLast?).map (·.content)

/-- What is logged when a workflow has spoken. -/
def workflowSpoke (assistant : Assistant) : Record :=
  .info source ("Workflow-driven conversation with " ++ assistant.name.display) "chat_workflow_reply"

/-- Puts entries in front of what was done. -/
def after {α : Type} (entries : List Entry) (done : Done α) : Done α := { done with entries := entries ++ done.entries }

/-- Tries the triggers of a workflow until one speaks. -/
def tryTriggers (host : Host) (workflow : Workflow) (conversation : List Message) (user : Value)
    (assistant : Assistant) : List Node → Trace → Services → Done Attempt
  | [], trace, services => { result := .ok .silent, trace, services }
  | node :: nodes, trace, services =>
    match freshContext (.dictionary []) conversation user assistant.id with
    | .error fault => { result := .error fault, trace, services }
    | .ok context =>
      let run := host.run workflow trace node.id context services
      match run.fault, spoken conversation.length run.walk.context with
      | some fault, _ =>
        { result := .error fault, entries := run.entries, trace := run.trace, services := run.walk.state }
      | none, some content =>
        { result := .ok (.spoke workflow.id content),
          entries := run.entries ++ run.trace.stamp [workflowSpoke assistant], trace := run.trace,
          services := run.walk.state }
      | none, none =>
        after run.entries (tryTriggers host workflow conversation user assistant nodes run.trace run.walk.state)

/-- Tries workflows until one speaks; one without nodes is passed over. -/
def tryWorkflows (host : Host) (conversation : List Message) (user : Value) (assistant : Assistant) :
    List Workflow → Trace → Services → Done Attempt
  | [], trace, services => { result := .ok .silent, trace, services }
  | workflow :: workflows, trace, services =>
    if workflow.nodes.isEmpty then tryWorkflows host conversation user assistant workflows trace services
    else
      match workflow.chatTriggers? with
      | none => { result := .error (.mistyped "the type of a trigger cannot be looked up"), trace, services }
      | some triggers =>
        let tried := host.tryTriggers workflow conversation user assistant triggers trace services
        match tried.result with
        | .ok .silent =>
          after tried.entries (tryWorkflows host conversation user assistant workflows tried.trace tried.services)
        | _ => tried

/-! ## Asking directly -/

/-- A hundredth of a value. -/
def hundredth (v : Value) : Except Fault Value :=
  match v, v.whole? with
  | .real x, _ => .ok (.real (x.divNat 100))
  | _, some n => (Binary64.ofRatio (n < 0) n.natAbs 100).bounded?.elim (.error .quotientTooLarge) fun x => .ok (.real x)
  | v, none => .error (.mistyped s!"unsupported operand type(s) for /: '{v.typeName}' and 'int'")

/-- What is logged when the provider gives no text. -/
def directFailure (assistant : Assistant) (fault : Fault) : Record :=
  { level := Record.warning, source,
    message := s!"Direct reply for {assistant.name.display} failed: {fault.message}",
    event := .text "chat_llm_failed", model := assistant.model }

/-- What is logged when the provider has answered. -/
def directReply (assistant : Assistant) : Record :=
  { Record.info source ("Direct conversation with " ++ assistant.name.display) "chat_direct_reply" with
    model := assistant.model }

/-- The prompt of a conversation. -/
def directPrompt (host : Host) (conversation : List Message) (assistant : Assistant) : Except Fault Prompt := do
  let temperature ← hundredth assistant.temperature
  return .ofTurns (conversation.map Message.turn) (assistant.model.orElse host.settings.model) temperature
    assistant.instructions

/-- Asks the provider for an answer to a conversation. -/
def askDirectly (host : Host) (conversation : List Message) (assistant : Assistant) (trace : Trace)
    (services : Services) : Done Message :=
  match host.provider, host.directPrompt conversation assistant with
  | none, _ =>
    { result := .error (.noAttribute "'NoneType' object has no attribute 'generate_response'"), trace, services }
  | some _, .error fault => { result := .error fault, trace, services }
  | some provider, .ok prompt =>
    let answer := provider.generate services.asked prompt
    let services := { services with asked := services.asked ++ [prompt] }
    match answer.result with
    | .ok content =>
      { result := host.message services .assistant content, trace, services := services.later Message.pace,
        entries := trace.stamp (answer.records ++ [directReply assistant]) }
    | .error fault =>
      if fault.isGeneration then
        { result := .ok (host.said services .assistant s!"{apology} {fault.message}"), trace,
          services := services.later Message.pace,
          entries := trace.stamp (answer.records ++ [directFailure assistant fault]) }
      else { result := .error fault, trace, services, entries := trace.stamp answer.records }

/-! ## Answering -/

/-- Answers a message. -/
def respond (host : Host) (workflows : List Workflow) (history : List Message) (text : Value)
    (assistant : Assistant) (user : Value) (trace : Trace) (services : Services) : Done ChatReply :=
  match host.message services .user text with
  | .error fault => { result := .error fault, trace, services }
  | .ok said =>
    let conversation := history ++ [said]
    let tried := host.tryWorkflows conversation user assistant workflows trace (services.later Message.pace)
    match tried.result with
    | .error fault => { tried with result := .error fault }
    | .ok (.spoke workflow content) =>
      let reply := host.said tried.services .assistant content
      { tried with
        result := .ok { reply, messages := conversation ++ [reply], workflow := some workflow }
        services := tried.services.later Message.pace }
    | .ok .silent =>
      let asked := after tried.entries (host.askDirectly conversation assistant tried.trace tried.services)
      { asked with result := asked.result.map fun reply => { reply, messages := conversation ++ [reply] } }

end Host

end Chatflow
