import Chatflow.Schema.Reading
import Chatflow.Value.Wire

/-!
# Nodes

A node of a workflow has a kind, which decides what it does, and open data, which say how.  On the wire a node is a
dictionary; what belongs to no field of it is kept (`Node.read`, `Node.wire`).
-/

namespace Chatflow

open Schema

/-- What a node does. -/
inductive NodeKind where
  | trigger
  | aiAction
  | condition
  | output
  deriving DecidableEq, Repr

namespace NodeKind

/-- All kinds. -/
def all : List NodeKind := [.trigger, .aiAction, .condition, .output]

/-- The name of a kind. -/
def name : NodeKind → String
  | .trigger => "trigger"
  | .aiAction => "ai_action"
  | .condition => "condition"
  | .output => "output"

/-- The kind of a name. -/
def ofName? (s : String) : Option NodeKind := all.find? fun kind => kind.name == s

/-- Reads a kind. -/
def read : Value → Checked NodeKind
  | .text s =>
    match ofName? s with
    | some kind => .ok kind
    | none => .flawed (.notOneOf (all.map name))
  | _ => .flawed (.notOneOf (all.map name))

end NodeKind

/-- A node of a workflow; `position` is where an editor shows it. -/
structure Node where
  id : String
  kind : NodeKind
  label : String := ""
  position : Keyed Binary64 := []
  data : Fields := []
  extras : Fields := []

namespace Node

/-- The title of nodes in reports. -/
def title : String := "WorkflowNode"

/-- The fields of a node. -/
def names : List Name := [.plain "id", .plain "type", .plain "label", .plain "position", .plain "data"]

/-- The data of a node; null stands for none. -/
def readData : Value → Checked Fields
  | .null => .ok []
  | v => readKeyed .ok v

/-- Reads a node. -/
def read (v : Value) : Checked Node :=
  match entriesOf title v with
  | .error ps => .error ps
  | .ok entries =>
    (Checked.fine Node.mk).also (entries.required (.plain "id") readText)
      |>.also (entries.required (.plain "type") NodeKind.read)
      |>.also (entries.optional (.plain "label") readText "")
      |>.also (entries.optional (.plain "position") (readKeyed readReal) [])
      |>.also (entries.optional (.plain "data") readData [])
      |>.also (entries.extras names)

/-- A node on the wire. -/
def wire (node : Node) : Except Value.Fault Value := do
  return .ofFields ([("id", .text node.id), ("type", .text node.kind.name), ("label", .text node.label),
    ("position", .ofFields (node.position.map fun (k, x) => (k, .real x))),
    ("data", .ofFields (← node.data.onWire))] ++ (← node.extras.onWire))

/-- What logs call a node. -/
def shownName (node : Node) : String := if node.label.isEmpty then node.id else node.label

end Node

end Chatflow
