import Chatflow.Generation.Provider
import Chatflow.Handler.Basic
import Chatflow.Template
import Chatflow.Webhook

/-!
# The standard handlers

* A trigger lets a run begin when it fits how the run was started.
* An AI action asks the provider, with its prompt at the end of the conversation.
* A condition decides on a branch.
* An output puts a text into a message, a variable or a webhook.

Their state is what was asked and posted so far, and how far the clock is read (`Services`).  A node has a fixed row of
readings to itself (`Tools.pace`), whether it takes them or not.
-/

namespace Chatflow

/-- What was asked of the provider and sent to the network so far, and how many readings of the clock are used up. -/
structure Services where
  asked : List Prompt := []
  posted : List HttpRequest := []
  ticks : Nat := 0

/-- Services when some more readings of the clock are used up. -/
def Services.later (services : Services) (n : Nat) : Services := { services with ticks := services.ticks + n }

/-- What the standard handlers work with; `room` tells how deep the values may lie that they put into texts. -/
structure Tools where
  clock : Clock
  room : Nat
  provider : Option Provider := none
  webhook : Option Webhook := none
  client : HttpClient
  network : Network

namespace Tools

/-- The part of the library that logs what the standard handlers do. -/
def source : String := "autoflow.graph.handlers"

/-- A reading of the clock, counted from those that are used up. -/
def reading (tools : Tools) (services : Services) (n : Nat) : Tick := tools.clock (services.ticks + n)

/-- How many readings of the clock a node has: one for its template or its schedule, and two for what it sends. -/
def pace : Nat := 3

/-- What a template gives at a node. -/
def fill (tools : Tools) (template : String) (context : Context) (services : Services) :
    Logged (Except Value.Fault String) :=
  Template.substitute tools.room (tools.reading services 0).moment template context

/-- A completed node with data. -/
def done (data : Fields) : Verdict := .completed (some data) none

/-! ## Triggers -/

/-- What becomes of a trigger. -/
def triggerVerdict (tools : Tools) (config : TriggerConfig) (context : Context) (services : Services) : Verdict :=
  match config.triggerType with
  | some "manual" => done [("triggered", .bool true)]
  | some "message" =>
    match context.lastMessage with
    | some m =>
      if m.role = .user then done [("message", .text m.content), ("timestamp", .text m.timestamp)]
      else .failed (some "No user message found")
    | none => .failed (some "No user message found")
  | some "schedule" => done [("scheduledTime", .text (tools.reading services 0).moment.iso)]
  | other => .failed (some s!"Unknown trigger type: {Value.displayText? other}")

/-! ## AI actions -/

/-- The model that is asked unless a node names one. -/
def defaultModel : String := "gpt-4o"

/-- How free an answer may be, from 0 to 100, unless a node says so. -/
def defaultTemperature : Binary64 := .ofRatio false 50 1

/-- The model that an AI action asks. -/
def modelOf (config : AiActionConfig) : String :=
  match config.model with
  | some model => if model.isEmpty then defaultModel else model
  | none => defaultModel

/-- The prompt of an AI action: the conversation, and the text as the user's turn behind it. -/
def promptOf (config : AiActionConfig) (context : Context) (text : String) : Prompt :=
  .ofTurns (context.turns ++ [.ofFields [("role", .text "user"), ("content", .text text)]])
    (.text (modelOf config)) (.real ((config.temperature.getD defaultTemperature).divNat 100))
    (.ofText? config.instructions)

/-- What is logged when the provider gives no text. -/
def askFailure (node : Node) (config : AiActionConfig) (fault : Fault) : Record :=
  { level := Record.warning, source, message := s!"AI action '{node.id}' failed: {fault.message}",
    model := .text (modelOf config) }

/-- Asks the provider for a text. -/
def ask (provider : Provider) (node : Node) (config : AiActionConfig) (text : String) (context : Context)
    (services : Services) : Handled Services :=
  let prompt := promptOf config context text
  let answer := provider.generate services.asked prompt
  let state := { services with asked := services.asked ++ [prompt] }
  match answer.result with
  | .ok content =>
    { verdict := done [("aiResponse", content), ("prompt", .text text)], context, records := answer.records, state }
  | .error fault =>
    { verdict := .failed (some s!"AI action failed: {fault.message}"), context,
      records := answer.records ++ [askFailure node config fault], state }

/-- An AI action. -/
def aiAction (tools : Tools) (node : Node) (config : AiActionConfig) (context : Context) (services : Services) :
    Handled Services :=
  let template := config.prompt.getD ""
  if template.isEmpty then
    { verdict := .failed (some "No prompt specified for AI action"), context, state := services }
  else
    match tools.provider with
    | none => { verdict := .failed (some "AI action failed: no LLM provider configured"), context, state := services }
    | some provider =>
      let filled := tools.fill template context services
      match filled.result with
      | .error fault => { verdict := .raised (.value fault), context, records := filled.records, state := services }
      | .ok text =>
        let handled := ask provider node config text context services
        { handled with records := filled.records ++ handled.records }

/-! ## Conditions -/

/-- Whether a condition holds: the one in words if there is one, else the comparison when it is complete. -/
def decide (tools : Tools) (config : ConditionConfig) (vars : Fields) : Logged (Except Value.Fault Bool) :=
  let words := config.condition.getD ""
  let operator := config.operator.getD ""
  if !words.isEmpty then Condition.evaluate tools.room words vars
  else
    match config.value with
    | .null => ⟨.ok false, []⟩
    | v =>
      if operator.isEmpty then ⟨.ok false, []⟩
      else ((vars.get? (config.variableName.getD "")).getD .null).compare tools.room operator v

/-- A condition. -/
def condition (tools : Tools) (config : ConditionConfig) (context : Context) (services : Services) :
    Handled Services :=
  if (config.condition.getD "").isEmpty && (config.variableName.getD "").isEmpty then
    { verdict := .failed (some "No condition specified"), context, state := services }
  else
    let decided := tools.decide config context.vars
    let verdict : Verdict :=
      match decided.result with
      | .ok met => done [("conditionResult", .bool met), ("conditionMet", .bool met)]
      | .error fault => .failed (some s!"Condition evaluation failed: {fault.message}")
    { verdict, context, records := decided.records, state := services }

/-! ## Outputs -/

/-- What is logged when a webhook is not delivered. -/
def deliveryFailure (node : Node) (fault : Fault) : Record :=
  { level := Record.warning, source, message := fault.message, event := .text "webhook_delivery_failed",
    node := .text node.id }

/-- What is logged when no webhook is set up for a text. -/
def noDelivery (node : Node) (content : String) : Record :=
  (Record.info source s!"Webhook output (no delivery configured): {content}" "webhook_not_configured").about node.id

/-- Posts the text of an output.  A webhook that is refused or not reached is logged; other faults are raised. -/
def post (tools : Tools) (webhook : Webhook) (node : Node) (config : OutputConfig) (content : String)
    (verdict : Verdict) (context : Context) (services : Services) : Handled Services :=
  match webhook.resolve config with
  | .null => { verdict, context, records := [noDelivery node content], state := services }
  | url =>
    let now := (tools.reading services 1).moment
    let delivery := webhook.deliver tools.client tools.network services.posted now content node context url
    let state := { services with posted := services.posted ++ delivery.request.toList }
    match delivery.result with
    | .ok _ => { verdict, context, records := delivery.records, state }
    | .error fault =>
      if fault.isUndelivered then
        { verdict, context, records := delivery.records ++ [deliveryFailure node fault], state }
      else { verdict := .raised fault, context, records := delivery.records, state }

/-- Puts a text where an output says. -/
def place (tools : Tools) (node : Node) (config : OutputConfig) (content : String) (context : Context)
    (services : Services) : Handled Services :=
  let verdict := done [("output", .text content), ("outputType", .ofText? config.outputType)]
  match config.outputType with
  | some "message" =>
    let said := Message.said (tools.reading services 1) (tools.reading services 2) "output" .assistant content
    { verdict, context := context.append said, state := services }
  | some "variable" =>
    let name := config.variableName.getD ""
    let name := if name.isEmpty then "output" else name
    { verdict, context := context.setVariable name (.text content), state := services }
  | some "webhook" =>
    match tools.webhook with
    | some webhook => post tools webhook node config content verdict context services
    | none => { verdict, context, records := [noDelivery node content], state := services }
  | other =>
    let message := s!"Output ({Value.displayText? other}): {content}"
    { verdict, context, records := [(Record.info source message "output_unknown_type").about node.id],
      state := services }

/-- An output. -/
def output (tools : Tools) (node : Node) (config : OutputConfig) (context : Context) (services : Services) :
    Handled Services :=
  let filled := tools.fill (config.content.getD "") context services
  match filled.result with
  | .error fault => { verdict := .raised (.value fault), context, records := filled.records, state := services }
  | .ok content =>
    let handled := place tools node config content context services
    { handled with records := filled.records ++ handled.records }

/-! ## All kinds -/

/-- What becomes of a node, but for the readings of the clock that it uses up. -/
def handle (tools : Tools) : Handler Services := fun node config context services =>
  match config with
  | .trigger config => { verdict := tools.triggerVerdict config context services, context, state := services }
  | .aiAction config => tools.aiAction node config context services
  | .condition config => tools.condition config context services
  | .output config => tools.output node config context services

/-- The standard handler. -/
def handler (tools : Tools) : Handler Services := fun node config context services =>
  let handled := tools.handle node config context services
  { handled with state := handled.state.later pace }

/-- The standard handler for every kind. -/
def handlers (tools : Tools) : Handlers Services := fun _ => some tools.handler

end Tools

end Chatflow
