import Chatflow.Handler.Standard
import Chatflow.Settings
import Chatflow.Walk.Report

/-!
# Hosts

A host starts runs of workflows with the same provider, webhook and settings.
-/

namespace Chatflow

open Schema

/-- What runs are started with; `room` tells how deep the values may lie that they put into texts. -/
structure Host where
  clock : Clock
  room : Nat
  provider : Option Provider
  webhook : Option Webhook := none
  client : HttpClient
  network : Network
  settings : Settings := {}

/-- What came of something that a host did: a result or a fault, what was logged, and what it left. -/
structure Done (α : Type) where
  result : Except Fault α
  entries : List Entry := []
  trace : Trace
  services : Services

namespace Host

/-- The part of the library that logs what hosts do. -/
def source : String := "autoflow.runtime.workflow_runtime"

/-- The webhook that runs use: the one that is given, or one to the address in the settings. -/
def delivery (host : Host) : Option Webhook :=
  match host.webhook with
  | some webhook => some webhook
  | none =>
    if host.settings.webhookUrl.truthy then
      some { url := host.settings.webhookUrl, timeout := host.settings.webhookTimeout }
    else none

/-- What the nodes of a run work with. -/
def tools (host : Host) : Tools :=
  { clock := host.clock, room := host.room, provider := host.provider, webhook := host.delivery,
    client := host.client, network := host.network }

/-- The graph of a workflow with the standard handlers. -/
def walker (host : Host) (workflow : Workflow) : Walker Services := ⟨.ofWorkflow workflow, host.tools.handlers⟩

/-- A reading of the clock, counted from those that are used up. -/
def reading (host : Host) (services : Services) (n : Nat) : Tick := host.clock (services.ticks + n)

/-- How the run of a workflow is set up; its id is something random. -/
def setup (host : Host) (workflow : Workflow) (services : Services) : RunSetup :=
  { executionId := (host.reading services 0).token, workflow := some workflow.id,
    cap := host.settings.maxExecutions }

/-- The run of a workflow from a node. -/
def run (host : Host) (workflow : Workflow) (trace : Trace) (start : String) (context : Context)
    (services : Services) : Run Services :=
  (host.walker workflow).run (host.setup workflow services) trace start context (services.later 1)

/-- A fresh context; the variables and the ids of the people are read as those of a context are. -/
def freshContext (vars : Value) (messages : List Message) (user assistant : Value) : Except Fault Context :=
  let read := (Checked.fine fun vars user assistant => ({ vars, messages, user, assistant } : Context)).also
    ((readKeyed .ok vars).under "variables") |>.also ((PersonId.read user).under "userId")
      |>.also ((orNull PersonId.read assistant).under "assistantId")
  match read.report Context.title with
  | .ok context => .ok context
  | .error report => .error (.invalid report)

/-- A message that is said next. -/
def said (host : Host) (services : Services) (role : Role) (content : String) : Message :=
  .said (host.reading services 0) (host.reading services 1) "msg" role content

/-- A message whose content is any value. -/
def message (host : Host) (services : Services) (role : Role) (content : Value) : Except Fault Message :=
  match ((readText content).under "content").report Message.title with
  | .ok text => .ok (host.said services role text)
  | .error report => .error (.invalid report)

end Host

end Chatflow
