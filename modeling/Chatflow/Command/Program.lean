import Chatflow.Command.Inputs
import Chatflow.Command.Invocation
import Chatflow.Generation.Gateway
import Chatflow.Generation.Script
import Chatflow.Host.ChatTurn
import Chatflow.Host.ManualRun
import Chatflow.Journal.Basic

/-!
# The program

The program reads its command line, then the settings, sets the journal up and does what is asked
(`Surroundings.outcome`).  A fault that commands report is written as an error, with exit code 1; other faults leave the
program.
-/

namespace Chatflow.Command

/-- What the program finds around it; the moments at which records are made, one after the other, are told apart from
the other readings of the clock. -/
structure Surroundings where
  clock : Clock
  recorded : Nat → Moment
  environment : Environment
  backend : Backend
  client : HttpClient
  network : Network

/-- How the program ended: its exit code, or the fault that ended it, what it wrote, and what it sent. -/
structure Outcome where
  exit : Except Fault Nat
  output : String := ""
  errors : String := ""
  requests : List Fields := []
  posted : List HttpRequest := []

/-- The outcome of a refusal. -/
def Refusal.outcome (r : Refusal) : Outcome := { exit := .ok r.code, output := r.output, errors := r.errors }

/-- The outcome of a fault behind what was written to the journal. -/
def Outcome.ofFault (journal : String) (fault : Fault) : Outcome :=
  if fault.isReported then { exit := .ok 1, errors := journal ++ s!"Error: {fault.message}\n" }
  else { exit := .error fault, errors := journal }

/-- A value as a page of JSON; `room` tells how deep the values in it may lie. -/
def page (room : Nat) (v : Except Value.Fault Value) : Except Fault String :=
  match v.bind (Value.json .page room) with
  | .ok s => .ok (s ++ "\n")
  | .error fault => .error (.value fault)

/-! ## Text generation -/

/-- Where a command gets its texts from. -/
inductive Source where
  | script (script : Script)
  | gateway (gateway : Gateway)

/-- The source for a command: a fixed reply, or the gateway of the settings. -/
def source (env : Environment) (settings : Settings) (mock : Value) : Source :=
  match mock with
  | .null =>
    .gateway (env.withKey
      { apiKey := settings.apiKey, apiBase := settings.apiBase, maxTokens := settings.maxTokens,
        timeout := Gateway.defaultTimeout })
  | reply => .script { default := reply }

/-- A source as a provider. -/
def Source.provider (backend : Backend) : Source → Provider
  | .script s => s.provider
  | .gateway g => g.provider backend

/-- The requests that a source made of prompts. -/
def Source.requests (asked : List Prompt) : Source → List Fields
  | .script _ => []
  | .gateway g => asked.map g.request

/-! ## Commands -/

/-- What the commands work with. -/
structure Desk where
  around : Surroundings
  environment : Environment
  settings : Settings
  journal : Journal

namespace Desk

/-- How deep values may lie inside each other. -/
def rooms (desk : Desk) : Rooms := desk.environment.rooms

/-- The host of a command. -/
def host (desk : Desk) (source : Source) (settings : Settings) : Host :=
  { clock := desk.around.clock, room := desk.rooms.text, client := desk.around.client, network := desk.around.network,
    settings, provider := some (source.provider desk.around.backend) }

/-- The outcome of something done, with a text for the result. -/
def conclude {α : Type} (desk : Desk) (source : Source) (done : Done α) (text : α → Except Fault String) : Outcome :=
  let journal := desk.journal.writtenAll desk.around.recorded done.entries
  let outcome : Outcome := match done.result.bind text with
    | .ok output => { exit := .ok 0, output, errors := journal }
    | .error fault => .ofFault journal fault
  { outcome with requests := source.requests done.services.asked, posted := done.services.posted }

/-- Runs a workflow. -/
def run (desk : Desk) (task : RunTask) : Outcome :=
  let inputs : Except Fault (Workflow × Fields) := do
    let workflow ← loadWorkflow desk.rooms.workflow desk.environment.files task.workflow
    return (workflow, ← parseVariables desk.rooms.input task.pairs task.input)
  match inputs with
  | .error fault => .ofFault "" fault
  | .ok (workflow, vars) =>
    let source := source desk.environment desk.settings task.mock
    let cap := match task.cap with
      | .null => desk.settings.maxExecutions
      | cap => cap
    let host := desk.host source { desk.settings with maxExecutions := cap }
    desk.conclude source (host.runManual workflow task.trigger (.ofFields vars) (.int 1) [] {}) fun r =>
      page desk.rooms.page r.wire

/-- A reply on one line, behind where it comes from. -/
def replyLine (r : ChatReply) : String :=
  (if r.workflow.isSome then "[workflow] " else "[direct] ") ++ r.reply.content ++ "\n"

/-- The messages before a turn; a path that is empty counts as none. -/
def history (desk : Desk) (path : Value) : Except Fault (List Message) :=
  if path.truthy then loadHistory desk.rooms.history desk.environment.files desk.around.clock path else .ok []

/-- Answers a message. -/
def chat (desk : Desk) (task : ChatTask) : Outcome :=
  let inputs : Except Fault (Workflow × List Message) := do
    let workflow ← loadWorkflow desk.rooms.workflow desk.environment.files task.workflow
    return (workflow, ← desk.history task.history)
  match inputs with
  | .error fault => .ofFault "" fault
  | .ok (workflow, history) =>
    let assistant : Assistant :=
      { name := task.assistant, model := task.model.orElse desk.settings.model, temperature := task.temperature,
        instructions := task.instructions, id := PersonId.value? workflow.assistant }
    let source := source desk.environment desk.settings task.mock
    let host := desk.host source desk.settings
    -- The readings that the messages of the history may have taken are used up.
    let services : Services := { ticks := Message.pace * history.length }
    desk.conclude source (host.respond [workflow] history task.message assistant (.int 1) [] services) fun r =>
      if task.asJson then page desk.rooms.page r.wire else .ok (replyLine r)

end Desk

/-- A node in the description of a workflow. -/
def describeNode (node : Node) : Value :=
  .ofFields [("id", .text node.id), ("type", .text node.kind.name), ("label", .text node.label)]

/-- A connection in the description of a workflow: what is null is left out. -/
def describeConnection (c : Connection) : Except Value.Fault Value := do
  let isGiven : Value → Bool
    | .null => false
    | _ => true
  let fields ← { c with extras := c.extras.filter fun (_, v) => isGiven v }.fields
  return .ofFields (fields.filter fun (name, v) => name != "condition" || isGiven v)

/-- The description of a workflow. -/
def describe (workflow : Workflow) : Except Value.Fault Value := do
  return .ofFields [("id", .text workflow.id), ("name", .text workflow.name),
    ("nodes", .list (workflow.nodes.map describeNode)),
    ("connections", .list (← workflow.connections.mapM describeConnection)),
    ("triggers", .list (workflow.triggers.map fun node => .text node.id)),
    ("danglingConnections", .list ((Graph.ofWorkflow workflow).dangling.map fun c => .text c.id))]

/-- Describes a workflow. -/
def info (rooms : Rooms) (files : Files) (path : Value) : Outcome :=
  match (loadWorkflow rooms.workflow files path).bind fun workflow => page rooms.page (describe workflow) with
  | .ok output => { exit := .ok 0, output }
  | .error fault => .ofFault "" fault

/-! ## The whole program -/

namespace Surroundings

/-- Does what is asked, with a journal.  The settings are read anew, since the journal may have set a variable. -/
def perform (around : Surroundings) (journal : Journal) : Task → Outcome
  | .info path => Command.info around.environment.rooms around.environment.files path
  | .run task => withDesk fun desk => desk.run task
  | .chat task => withDesk fun desk => desk.chat task
where
  /-- Gives a command what it works with. -/
  withDesk (command : Desk → Outcome) : Outcome :=
    let environment := { around.environment with vars := journal.vars }
    match environment.settings with
    | .ok settings => command { around, environment, settings, journal }
    | .error fault => .ofFault "" fault

/-- What comes of a command line. -/
def outcome (around : Surroundings) (words : List String) : Outcome :=
  match Invocation.read words with
  | .error refusal => refusal.outcome
  | .ok invocation =>
    match around.environment.settings with
    | .error fault => { exit := .error fault }
    | .ok settings =>
      let journal : Journal := { vars := around.environment.vars, room := around.environment.rooms.line }
      match journal.configure (invocation.level.orElse settings.logLevel)
        (invocation.format.orElse settings.logFormat) with
      | (_, .error fault) => { exit := .error fault }
      | (journal, .ok ()) => around.perform journal invocation.task

end Surroundings

end Chatflow.Command
