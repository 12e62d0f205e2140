import Chatflow.Workflow.Node

/-!
# Workflows

A connection leads from one node to another; it may carry a tag, `true` or `false`, that chooses the branch behind a
condition.  A workflow is a list of nodes and a list of connections.  Nothing is checked between the two lists.
-/

namespace Chatflow

open Schema

/-- The id of a user or an assistant. -/
inductive PersonId where
  | number (n : Int)
  | name (s : String)
  deriving DecidableEq, Repr

namespace PersonId

/-- An id as a value. -/
def value : PersonId → Value
  | .number n => .int n
  | .name s => .text s

/-- An id or null as a value. -/
def value? : Option PersonId → Value
  | some i => i.value
  | none => .null

/-- The first integer whose size is too large: one past the largest of 64 bits with a sign. -/
def intLimit : Int := Nat.pow 2 63

/-- The integer that a number stands for: fractions are refused, and numbers in double precision that are not smaller in
size than the limit. -/
def readInt : Value → Checked Int
  | .int n => .ok n
  | .bool b => .ok (if b then 1 else 0)
  | .real (.finite negative u h) =>
    let x : Binary64 := .finite negative u h
    if !x.isInteger then .flawed .fractional
    else if x.truncate ≤ -intLimit ∨ intLimit ≤ x.truncate then .flawed .integerTooLarge
    else .ok x.truncate
  | .real _ => .flawed .notFinite
  | _ => .flawed .notInteger

/-- Reads an id: a text, or what stands for an integer. -/
def read : Value → Checked PersonId
  | .text s => .ok (.name s)
  | v =>
    match readInt v with
    | .ok n => .ok (.number n)
    | .error ps =>
      .error (ps.map (Problem.under "int") ++ [(Problem.here .notText).under "str"])

end PersonId

/-- A connection from one node to another. -/
structure Connection where
  id : String
  source : String
  target : String
  condition : Option String := none
  extras : Fields := []

namespace Connection

/-- The title of connections in reports. -/
def title : String := "WorkflowConnection"

/-- The fields of a connection. -/
def names : List Name := [.plain "id", .plain "source", .plain "target", .plain "condition"]

/-- The tag of a branch: a truth value stands for its name. -/
def readTag : Value → Checked (Option String)
  | .bool b => .ok (some (toString b))
  | v => orNull readText v

/-- Reads a connection. -/
def read (v : Value) : Checked Connection :=
  match entriesOf title v with
  | .error ps => .error ps
  | .ok entries =>
    (Checked.fine Connection.mk).also (entries.required (.plain "id") readText)
      |>.also (entries.required (.plain "source") readText)
      |>.also (entries.required (.plain "target") readText)
      |>.also (entries.optional (.plain "condition") readTag none)
      |>.also (entries.extras names)

/-- The fields of a connection on the wire. -/
def fields (c : Connection) : Except Value.Fault Fields := do
  return [("id", .text c.id), ("source", .text c.source), ("target", .text c.target),
    ("condition", .ofText? c.condition)] ++ (← c.extras.onWire)

/-- A connection on the wire. -/
def wire (c : Connection) : Except Value.Fault Value := return .ofFields (← c.fields)

end Connection

/-- A workflow. -/
structure Workflow where
  id : String
  name : String := ""
  description : String := ""
  nodes : List Node := []
  connections : List Connection := []
  assistant : Option PersonId := none
  extras : Fields := []

namespace Workflow

/-- The title of workflows in reports. -/
def title : String := "WorkflowSpec"

/-- The fields of a workflow. -/
def names : List Name :=
  [.plain "id", .plain "name", .plain "description", .plain "nodes", .plain "connections",
    ⟨"assistantId", "assistant_id"⟩]

/-- The id of a workflow: integers and truth values stand for their texts. -/
def readId : Value → Checked String
  | .int n => .ok (toString n)
  | .bool b => .ok (Value.bool b).display
  | v => readText v

/-- Reads a workflow. -/
def read (v : Value) : Checked Workflow :=
  match entriesOf title v with
  | .error ps => .error ps
  | .ok entries =>
    (Checked.fine Workflow.mk).also (entries.required (.plain "id") readId)
      |>.also (entries.optional (.plain "name") readText "")
      |>.also (entries.optional (.plain "description") readText "")
      |>.also (entries.optional (.plain "nodes") (readList Node.read) [])
      |>.also (entries.optional (.plain "connections") (readList Connection.read) [])
      |>.also (entries.optional ⟨"assistantId", "assistant_id"⟩ (orNull PersonId.read) none)
      |>.also (entries.extras names)

/-- A workflow on the wire. -/
def wire (w : Workflow) : Except Value.Fault Value := do
  return .ofFields ([("id", .text w.id), ("name", .text w.name), ("description", .text w.description),
    ("nodes", .list (← w.nodes.mapM Node.wire)), ("connections", .list (← w.connections.mapM Connection.wire)),
    ("assistantId", PersonId.value? w.assistant)] ++ (← w.extras.onWire))

/-- The first node with an id. -/
def node? (w : Workflow) (id : String) : Option Node := w.nodes.find? (·.id == id)

/-! ## Triggers -/

/-- The nodes that start runs. -/
def triggers (w : Workflow) : List Node := w.nodes.filter (·.kind == .trigger)

/-- The type of a trigger as its data give it. -/
def triggerType (node : Node) : Value := (node.data.get? "triggerType").getD .null

/-- The triggers of some types; nothing when the type of one is a list or dictionary, which cannot be looked up. -/
def triggersOf? (w : Workflow) (types : List String) : Option (List Node) :=
  if w.triggers.all fun node => (triggerType node).isLookupKey then
    some (w.triggers.filter fun node =>
      match triggerType node with
      | .text s => types.contains s
      | _ => false)
  else none

/-- The types of triggers that answer to a chat message. -/
def chatTypes : List String := ["message", "manual"]

/-- The triggers that answer to a chat message. -/
def chatTriggers? (w : Workflow) : Option (List Node) := w.triggersOf? chatTypes

end Workflow

end Chatflow
