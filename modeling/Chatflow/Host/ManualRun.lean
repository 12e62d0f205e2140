import Chatflow.Host.Basic

/-!
# Manual runs

A manual run starts at a trigger that the caller names, or at the first one, with the caller's variables and no
messages.
-/

namespace Chatflow

/-- What came of a manual run. -/
structure ManualRun where
  context : Context
  report : Report

/-- A manual run on the wire. -/
def ManualRun.wire (run : ManualRun) : Except Value.Fault Value := do
  return .ofFields [("success", .bool true), ("context", ← run.context.wire),
    ("messages", ← Message.wires run.context.messages),
    ("executedNodes", .list (run.report.path.map .text)), ("terminatedBy", .text run.report.ending),
    ("error", .ofText? run.report.error)]

/-- Whether a node is asked for: null asks for any node, a text for the one with that id. -/
def Node.isAsked (node : Node) : Value → Bool
  | .null => true
  | .text id => node.id == id
  | _ => false

/-- The first trigger that is asked for. -/
def Workflow.trigger (workflow : Workflow) (asked : Value) : Except Fault Node :=
  match workflow.triggers.find? (·.isAsked asked) with
  | some node => .ok node
  | none => .error (.noTrigger workflow.id asked)

namespace Host

/-- What is logged after a manual run. -/
def executed (workflow : Workflow) : Record :=
  { level := Record.informing, source,
    message := "Executed workflow: " ++ (if workflow.name.isEmpty then workflow.id else workflow.name) }

/-- Where and with what a manual run begins. -/
def prepare (workflow : Workflow) (trigger vars user : Value) : Except Fault (Node × Context) := do
  if workflow.nodes.isEmpty then throw (.noNodes workflow.id)
  let node ← workflow.trigger trigger
  let context ← freshContext (vars.orElse (.dictionary [])) [] user (PersonId.value? workflow.assistant)
  return (node, context)

/-- Runs a workflow for a caller. -/
def runManual (host : Host) (workflow : Workflow) (trigger vars user : Value) (trace : Trace) (services : Services) :
    Done ManualRun :=
  match prepare workflow trigger vars user with
  | .error fault => { result := .error fault, trace, services }
  | .ok (node, context) =>
    let run := host.run workflow trace node.id context services
    match run.fault with
    | some fault => { result := .error fault, entries := run.entries, trace := run.trace, services := run.walk.state }
    | none =>
      { result := .ok ⟨run.walk.context, run.report⟩, entries := run.entries ++ run.trace.stamp [executed workflow],
        trace := run.trace, services := run.walk.state }

end Host

end Chatflow
