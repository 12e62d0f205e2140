import Chatflow.Clock
import Chatflow.Workflow.Spec

/-!
# Conversations

Messages between a user and an assistant, and the context of a run: variables, messages, the node at which the run is
and the people concerned.
-/

namespace Chatflow

open Schema

/-- Who speaks. -/
inductive Role where
  | user
  | assistant
  deriving DecidableEq, Repr

namespace Role

/-- All roles. -/
def all : List Role := [.user, .assistant]

/-- The name of a role. -/
def name : Role → String
  | .user => "user"
  | .assistant => "assistant"

/-- Reads a role. -/
def read : Value → Checked Role
  | .text s =>
    match all.find? fun role => role.name == s with
    | some role => .ok role
    | none => .flawed (.notChoice (all.map name))
  | _ => .flawed (.notChoice (all.map name))

end Role

/-- The id of a message: how it starts, when it was made, and the first characters of something random. -/
def Tick.messageId (made : Tick) (start : String) : String :=
  s!"{start}_{made.moment.millis}_{String.ofList (made.token.toList.take 6)}"

/-- A chat message. -/
structure Message where
  id : String
  role : Role
  content : String
  timestamp : String
  extras : Fields := []

namespace Message

/-- The title of messages in reports. -/
def title : String := "ChatMessage"

/-- The fields of a message. -/
def names : List Name := [.plain "id", .plain "role", .plain "content", .plain "timestamp"]

/-- A message that is said; its id, which `start` begins, is made first, then its time is taken. -/
def said (made timed : Tick) (start : String) (role : Role) (content : String) : Message :=
  { id := made.messageId start, role, content, timestamp := timed.moment.iso }

/-- Reads a message; one that has no id or time gets them from the first two readings of a clock. -/
def read (clock : Clock) (v : Value) : Checked Message :=
  match entriesOf title v with
  | .error ps => .error ps
  | .ok entries =>
    (Checked.fine Message.mk).also (entries.optional (.plain "id") readText ((clock 0).messageId "msg"))
      |>.also (entries.required (.plain "role") Role.read)
      |>.also (entries.required (.plain "content") readText)
      |>.also (entries.optional (.plain "timestamp") readText (clock 1).moment.iso)
      |>.also (entries.extras names)

/-- How many readings of the clock a message may take. -/
def pace : Nat := 2

/-- Reads a row of messages, each with readings of its own. -/
def readAll (clock : Clock) : Value → Checked (List Message) := readRow fun n => read (clock.from (pace * n))

/-- A message on the wire. -/
def wire (m : Message) : Except Value.Fault Value := do
  return .ofFields ([("id", .text m.id), ("role", .text m.role.name), ("content", .text m.content),
    ("timestamp", .text m.timestamp)] ++ (← m.extras.onWire))

/-- Messages on the wire. -/
def wires (messages : List Message) : Except Value.Fault Value := return .list (← messages.mapM wire)

/-- What a text generator is told of a message. -/
def turn (m : Message) : Value := .ofFields [("role", .text m.role.name), ("content", .text m.content)]

end Message

/-- The state of a run. -/
structure Context where
  vars : Fields := []
  messages : List Message := []
  currentNode : Option String := none
  user : PersonId
  assistant : Option PersonId := none
  extras : Fields := []

namespace Context

/-- The title of contexts in reports. -/
def title : String := "ExecutionContext"

/-- The fields of a context. -/
def names : List Name :=
  [.plain "variables", .plain "messages", ⟨"currentNodeId", "current_node_id"⟩, ⟨"userId", "user_id"⟩,
    ⟨"assistantId", "assistant_id"⟩]

/-- Reads a context; messages that have no ids or times get them from a clock. -/
def read (clock : Clock) (v : Value) : Checked Context :=
  match entriesOf title v with
  | .error ps => .error ps
  | .ok entries =>
    (Checked.fine Context.mk).also (entries.optional (.plain "variables") (readKeyed .ok) [])
      |>.also (entries.optional (.plain "messages") (Message.readAll clock) [])
      |>.also (entries.optional ⟨"currentNodeId", "current_node_id"⟩ (orNull readText) none)
      |>.also (entries.required ⟨"userId", "user_id"⟩ PersonId.read)
      |>.also (entries.optional ⟨"assistantId", "assistant_id"⟩ (orNull PersonId.read) none)
      |>.also (entries.extras names)

/-- A context on the wire. -/
def wire (c : Context) : Except Value.Fault Value := do
  return .ofFields ([("variables", .ofFields (← c.vars.onWire)), ("messages", ← Message.wires c.messages),
    ("currentNodeId", .ofText? c.currentNode), ("userId", c.user.value),
    ("assistantId", PersonId.value? c.assistant)] ++ (← c.extras.onWire))

/-- The newest message. -/
def lastMessage (c : Context) : Option Message := c.messages.getLast?

/-- What a text generator is told of the messages. -/
def turns (c : Context) : List Value := c.messages.map Message.turn

/-- Puts a message at the end. -/
def append (c : Context) (m : Message) : Context := { c with messages := c.messages ++ [m] }

/-- Puts a variable. -/
def setVariable (c : Context) (name : String) (v : Value) : Context :=
  { c with vars := c.vars.set name v }

end Context

end Chatflow
