import Chatflow.Workflow.Spec

/-!
# Graphs

Nodes and outgoing connections of a workflow, ready to be looked up.  Of several nodes with one id the last one counts,
at the place of the first; the connections that leave a node keep their order.

* `Graph.ofLists`: the graph of two lists.
* `Graph.route`: where a walk goes on behind a node.
* `Graph.dangling`: the connections that lead from or to nowhere.
-/

namespace Chatflow

/-- Nodes and outgoing connections by id. -/
structure Graph where
  nodes : Keyed Node
  outgoing : Keyed (List Connection)

/-- Where a walk goes on: nowhere, to a node that was asked for, or along a connection; `missed` is the branch that no
connection is tagged with, so that the first connection is taken instead. -/
inductive Route where
  | nowhere
  | asked (id : String)
  | along (connection : Connection) (missed : Option Bool)

/-- The id of the node to which a route leads; empty when it leads nowhere. -/
def Route.target : Route → String
  | .nowhere => ""
  | .asked id => id
  | .along connection _ => connection.target

namespace Graph

/-- Puts a node under its id. -/
def addNode (nodes : Keyed Node) (node : Node) : Keyed Node := nodes.set node.id node

/-- Puts a connection behind the others that leave its source. -/
def addConnection (outgoing : Keyed (List Connection)) (c : Connection) : Keyed (List Connection) :=
  outgoing.set c.source ((outgoing.get? c.source).getD [] ++ [c])

/-- The graph of a list of nodes and a list of connections. -/
def ofLists (nodes : List Node) (connections : List Connection) : Graph :=
  ⟨nodes.foldl addNode [], connections.foldl addConnection []⟩

/-- The graph of a workflow. -/
def ofWorkflow (w : Workflow) : Graph := ofLists w.nodes w.connections

/-- How many nodes there are. -/
def size (graph : Graph) : Nat := graph.nodes.length

/-- The nodes, each once. -/
def allNodes (graph : Graph) : List Node := graph.nodes.map (·.2)

/-- The node with an id. -/
def node? (graph : Graph) (id : String) : Option Node := graph.nodes.get? id

/-- Whether there is a node with an id. -/
def has (graph : Graph) (id : String) : Bool := graph.nodes.has id

/-- The connections that leave a node. -/
def outgoingOf (graph : Graph) (id : String) : List Connection := (graph.outgoing.get? id).getD []

/-- Whether an end of a connection is no node. -/
def dangles (graph : Graph) (c : Connection) : Bool := !graph.has c.source || !graph.has c.target

/-- The connections an end of which is no node, source by source. -/
def dangling (graph : Graph) : List Connection := (graph.outgoing.flatMap (·.2)).filter graph.dangles

/-- The branch that the data of a condition choose. -/
def branch (data : Option Fields) : Bool := ((data.bind (·.get? "conditionMet")).getD (.bool false)).truthy

/-- Whether the data of a completed node are asked for the branch: no node was asked for, it is a condition, connections
leave it, and the data tell whether it was met. -/
def asksBranch (graph : Graph) (node : Node) (data : Option Fields) (next : Option String) : Bool :=
  (next.getD "").isEmpty && decide (node.kind = .condition) && !(graph.outgoingOf node.id).isEmpty &&
    (data.bind (·.get? "conditionMet")).isSome

/-- Where a walk goes on behind a node: to the node that was asked for; else, behind a condition, along the first
connection tagged with the branch; else along the first connection. -/
def route (graph : Graph) (node : Node) (data : Option Fields) (next : Option String) : Route :=
  match next with
  | some id => if id.isEmpty then unasked else .asked id
  | none => unasked
where
  /-- Where a walk goes on when no node was asked for. -/
  unasked : Route :=
    match graph.outgoingOf node.id with
    | [] => .nowhere
    | first :: rest =>
      if node.kind = .condition then
        match (first :: rest).find? fun c => c.condition == some (toString (branch data)) with
        | some c => .along c none
        | none => .along first (some (branch data))
      else .along first none

end Graph

end Chatflow
