import Chatflow.Conversation
import Chatflow.Fault
import Chatflow.Journal.Record
import Chatflow.Workflow.NodeConfig

/-!
# Handlers

A handler does what a node is told.  It gets the node, what the node is told, the context and a state of its own, and
gives back a verdict, the context, what it logged and the state.  The type of the state is left open.

A node whose data cannot be read fails before its handler is called (`Handlers.visit`).

Data and faults are objects of the handler's own making.  They may refuse what a walk asks of them: whether a condition
was met, or for the text of a fault.  What they then raise is told beside the verdict (`Handled.refusal`).
-/

namespace Chatflow

/-- How a node ended: with data for the variables and, it may be, the id of the node to go to; with an error; or by a
fault. -/
inductive Verdict where
  | completed (data : Option Fields) (next : Option String)
  | failed (error : Option String)
  | raised (fault : Fault)

/-- What a handler gives back.  The refusal is what is raised when its data are asked whether a condition was met, or
its fault for a text; there is none when they answer. -/
structure Handled (σ : Type) where
  verdict : Verdict
  context : Context
  records : List Record := []
  state : σ
  refusal : Option Fault := none

/-- A handler with a state. -/
abbrev Handler (σ : Type) := Node → NodeConfig → Context → σ → Handled σ

/-- A handler for each kind of node that has one. -/
abbrev Handlers (σ : Type) := NodeKind → Option (Handler σ)

/-- A handler that works on a part of a larger state. -/
def Handler.on {σ τ : Type} (handler : Handler σ) (part : τ → σ) (put : σ → τ → τ) : Handler τ :=
  fun node config context state =>
    let handled := handler node config context (part state)
    { verdict := handled.verdict, context := handled.context, records := handled.records,
      state := put handled.state state, refusal := handled.refusal }

namespace Handlers

/-- Puts a handler in for a kind, or takes it away. -/
def put {σ : Type} (handlers : Handlers σ) (kind : NodeKind) (handler : Option (Handler σ)) : Handlers σ :=
  fun k => if k = kind then handler else handlers k

/-- Lets a node do what it is told. -/
def visit {σ : Type} (handlers : Handlers σ) (node : Node) (context : Context) (state : σ) : Handled σ :=
  match handlers node.kind with
  | none => { verdict := .failed (some s!"Unknown node type: {node.kind.name}"), context, state }
  | some handler =>
    match node.config with
    | .ok config => handler node config context state
    | .error report =>
      { verdict := .failed (some s!"Invalid {node.kind.name} configuration: {report.describe}"), context, state }

end Handlers

end Chatflow
