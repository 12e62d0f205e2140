import Chatflow.Workflow.Node

/-!
# What a node is told to do

The data of a node, read as one of four records according to its kind (`Node.config`).  Each field may be missing;
temperatures lie between 0 and 100.
-/

namespace Chatflow

open Schema

/-- When a trigger starts a run. -/
structure TriggerConfig where
  triggerType : Option String
  schedule : Option String
  extras : Fields

/-- What an AI action asks. -/
structure AiActionConfig where
  prompt : Option String
  model : Option String
  temperature : Option Binary64
  instructions : Option String
  extras : Fields

/-- What a condition asks: a condition in words, or a variable, an operator and a value. -/
structure ConditionConfig where
  condition : Option String
  variableName : Option String
  operator : Option String
  value : Value
  extras : Fields

/-- Where an output goes. -/
structure OutputConfig where
  outputType : Option String
  content : Option String
  variableName : Option String
  url : Option String
  webhookUrl : Option String
  extras : Fields

/-- A double-precision number or null. -/
def Value.ofReal? : Option Binary64 → Value
  | some x => .real x
  | none => .null

namespace TriggerConfig

/-- The title of these records in reports. -/
def title : String := "TriggerConfig"

/-- The fields. -/
def names : List Name := [⟨"triggerType", "trigger_type"⟩, .plain "schedule"]

/-- Reads such a record. -/
def read (v : Value) : Checked TriggerConfig :=
  match entriesOf title v with
  | .error ps => .error ps
  | .ok entries =>
    (Checked.fine TriggerConfig.mk).also (entries.optional ⟨"triggerType", "trigger_type"⟩ (orNull readText) none)
      |>.also (entries.optional (.plain "schedule") (orNull readText) none)
      |>.also (entries.extras names)

/-- The fields in their order. -/
def values (c : TriggerConfig) : List Value := [.ofText? c.triggerType, .ofText? c.schedule]

end TriggerConfig

namespace AiActionConfig

/-- The title of these records in reports. -/
def title : String := "AiActionConfig"

/-- The fields. -/
def names : List Name := [.plain "prompt", .plain "model", .plain "temperature", .plain "instructions"]

/-- Reads such a record. -/
def read (v : Value) : Checked AiActionConfig :=
  match entriesOf title v with
  | .error ps => .error ps
  | .ok entries =>
    (Checked.fine AiActionConfig.mk).also (entries.optional (.plain "prompt") (orNull readText) none)
      |>.also (entries.optional (.plain "model") (orNull readText) none)
      |>.also (entries.optional (.plain "temperature") (orNull (readBetween 0 100)) none)
      |>.also (entries.optional (.plain "instructions") (orNull readText) none)
      |>.also (entries.extras names)

/-- The fields in their order. -/
def values (c : AiActionConfig) : List Value :=
  [.ofText? c.prompt, .ofText? c.model, .ofReal? c.temperature, .ofText? c.instructions]

end AiActionConfig

namespace ConditionConfig

/-- The title of these records in reports. -/
def title : String := "ConditionConfig"

/-- The fields. -/
def names : List Name := [.plain "condition", .plain "variable", .plain "operator", .plain "value"]

/-- Reads such a record. -/
def read (v : Value) : Checked ConditionConfig :=
  match entriesOf title v with
  | .error ps => .error ps
  | .ok entries =>
    (Checked.fine ConditionConfig.mk).also (entries.optional (.plain "condition") (orNull readText) none)
      |>.also (entries.optional (.plain "variable") (orNull readText) none)
      |>.also (entries.optional (.plain "operator") (orNull readText) none)
      |>.also (entries.optional (.plain "value") .ok .null)
      |>.also (entries.extras names)

/-- The fields in their order. -/
def values (c : ConditionConfig) : List Value :=
  [.ofText? c.condition, .ofText? c.variableName, .ofText? c.operator, c.value]

end ConditionConfig

namespace OutputConfig

/-- The title of these records in reports. -/
def title : String := "OutputConfig"

/-- The fields. -/
def names : List Name :=
  [⟨"outputType", "output_type"⟩, .plain "content", ⟨"variableName", "variable_name"⟩, .plain "url",
    ⟨"webhookUrl", "webhook_url"⟩]

/-- Reads such a record. -/
def read (v : Value) : Checked OutputConfig :=
  match entriesOf title v with
  | .error ps => .error ps
  | .ok entries =>
    (Checked.fine OutputConfig.mk).also (entries.optional ⟨"outputType", "output_type"⟩ (orNull readText) none)
      |>.also (entries.optional (.plain "content") (orNull readText) none)
      |>.also (entries.optional ⟨"variableName", "variable_name"⟩ (orNull readText) none)
      |>.also (entries.optional (.plain "url") (orNull readText) none)
      |>.also (entries.optional ⟨"webhookUrl", "webhook_url"⟩ (orNull readText) none)
      |>.also (entries.extras names)

/-- The fields in their order. -/
def values (c : OutputConfig) : List Value :=
  [.ofText? c.outputType, .ofText? c.content, .ofText? c.variableName, .ofText? c.url, .ofText? c.webhookUrl]

end OutputConfig

/-- What a node is told to do, by its kind. -/
inductive NodeConfig where
  | trigger (c : TriggerConfig)
  | aiAction (c : AiActionConfig)
  | condition (c : ConditionConfig)
  | output (c : OutputConfig)

namespace NodeConfig

/-- The title of the records for a kind. -/
def title : NodeKind → String
  | .trigger => TriggerConfig.title
  | .aiAction => AiActionConfig.title
  | .condition => ConditionConfig.title
  | .output => OutputConfig.title

/-- Reads the record for a kind. -/
def read (kind : NodeKind) (v : Value) : Checked NodeConfig :=
  match kind with
  | .trigger => (TriggerConfig.read v).map .trigger
  | .aiAction => (AiActionConfig.read v).map .aiAction
  | .condition => (ConditionConfig.read v).map .condition
  | .output => (OutputConfig.read v).map .output

/-- The names of the fields for a kind. -/
def names : NodeKind → List Name
  | .trigger => TriggerConfig.names
  | .aiAction => AiActionConfig.names
  | .condition => ConditionConfig.names
  | .output => OutputConfig.names

/-- The kind that a record is for. -/
def kind : NodeConfig → NodeKind
  | .trigger _ => .trigger
  | .aiAction _ => .aiAction
  | .condition _ => .condition
  | .output _ => .output

/-- The values of the fields in their order. -/
def values : NodeConfig → List Value
  | .trigger c => c.values
  | .aiAction c => c.values
  | .condition c => c.values
  | .output c => c.values

/-- What belongs to no field. -/
def extras : NodeConfig → Fields
  | .trigger c => c.extras
  | .aiAction c => c.extras
  | .condition c => c.extras
  | .output c => c.extras

/-- A record on the wire. -/
def wire (c : NodeConfig) : Except Value.Fault Value := do
  return .ofFields (((names c.kind).map (·.wire)).zip (← c.values.mapM Value.onWire) ++ (← c.extras.onWire))

end NodeConfig

/-- What a node is told to do, or a report on its data. -/
def Node.config (node : Node) : Except Report NodeConfig :=
  (NodeConfig.read node.kind (.ofFields node.data)).report (NodeConfig.title node.kind)

end Chatflow
