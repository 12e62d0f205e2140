import Chatflow.Handler.Basic
import Chatflow.Workflow.Graph

/-!
# Walks

A walk goes through a graph from a node: each node does what it is told, its data go into the variables, and the route
behind it leads to the next one.  It ends when the route leads nowhere, when a node is missing, fails or raises a fault,
or when no more nodes are allowed.

What a handler gives back may refuse to answer when the walk looks at it.  Nothing catches what is raised then: it
escapes from the walk (`Graph.escape`, `Ending.escaped`).

* `Walk`: the steps taken, how it ended, and what is left.
* `Walker.walk`: the walk from a node, by recursion on how many nodes are still allowed.
-/

namespace Chatflow

/-- One node of a walk: the context with which it was reached, what its handler said and logged, the context that it
left, where the walk went on, and what escaped from the walk there. -/
structure Step where
  node : Node
  before : Context
  verdict : Verdict
  records : List Record
  after : Context
  route : Route
  escape : Option Fault := none

/-- How a walk ended. -/
inductive Ending where
  | finished
  | missing (id : String)
  | failed (error : Option String)
  | raised (fault : Fault)
  | capped
  | escaped (fault : Fault)

/-- A walk: its steps, how it ended, and the context and state that it left. -/
structure Walk (σ : Type) where
  steps : List Step
  ending : Ending
  context : Context
  state : σ

/-- A graph and what its nodes do. -/
structure Walker (σ : Type) where
  graph : Graph
  handlers : Handlers σ

/-- The context at a node. -/
def Context.at (context : Context) (id : String) : Context := { context with currentNode := some id }

/-- A context with the data of a node among its variables. -/
def Context.merge (context : Context) (data : Option Fields) : Context :=
  { context with vars := context.vars.merge (data.getD []) }

/-- The data that a verdict brings among the variables. -/
def Verdict.data : Verdict → Option Fields
  | .completed data _ => data
  | _ => none

/-- The context that a handled node leaves to the next one. -/
def Handled.settled {σ : Type} (handled : Handled σ) : Context := handled.context.merge handled.verdict.data

/-- What escapes from a walk at a node: the refusal of its fault to be told, or of its data to say whether a condition
was met when that is asked. -/
def Graph.escape {σ : Type} (graph : Graph) (node : Node) (handled : Handled σ) : Option Fault :=
  match handled.verdict with
  | .completed data next => if graph.asksBranch node data next then handled.refusal else none
  | .failed _ => none
  | .raised _ => handled.refusal

namespace Walk

/-- A walk without a step. -/
def still {σ : Type} (ending : Ending) (context : Context) (state : σ) : Walk σ := ⟨[], ending, context, state⟩

/-- Puts a step in front of a walk. -/
def cons {σ : Type} (step : Step) (walk : Walk σ) : Walk σ := { walk with steps := step :: walk.steps }

/-- The ids of the nodes, in order. -/
def path {σ : Type} (walk : Walk σ) : List String := walk.steps.map (·.node.id)

end Walk

namespace Walker

variable {σ : Type}

/-- The walk from a node through at most so many nodes; an empty id is nowhere. -/
def walk (walker : Walker σ) : Nat → String → Context → σ → Walk σ
  | 0, id, context, state => .still (if id.isEmpty then .finished else .capped) context state
  | allowed + 1, id, context, state =>
    if id.isEmpty then .still .finished context state
    else
      match walker.graph.node? id with
      | none => .still (.missing id) context state
      | some node =>
        let before := context.at id
        let handled := walker.handlers.visit node before state
        let after := handled.settled
        let escape := walker.graph.escape node handled
        let step (route : Route) := Step.mk node before handled.verdict handled.records after route escape
        match escape, handled.verdict with
        | some fault, _ => .cons (step .nowhere) (.still (.escaped fault) after handled.state)
        | none, .failed error => .cons (step .nowhere) (.still (.failed error) after handled.state)
        | none, .raised fault => .cons (step .nowhere) (.still (.raised fault) after handled.state)
        | none, .completed data next =>
          let route := walker.graph.route node data next
          .cons (step route) (walk walker allowed route.target after handled.state)

end Walker

end Chatflow
