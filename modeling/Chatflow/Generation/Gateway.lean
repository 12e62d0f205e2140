import Chatflow.Generation.Provider
import Chatflow.Text.Case
import Chatflow.Text.Search

/-!
# The gateway to text generators

A gateway sends a prompt to a backend and reads the reply.  A failure of the backend is logged and becomes one of four
generation faults with a fixed wording, chosen by the text and kind of the failure (`classify`).

The reply is an object whose attributes may be missing.  An object counts as present even when it is empty.
-/

namespace Chatflow

/-- What a backend replies to a request after the earlier ones. -/
abbrev Backend := List Fields → Fields → Except Fault Value

/-- How a gateway is set up. -/
structure Gateway where
  apiKey : Value := .null
  apiBase : Value := .null
  maxTokens : Value
  timeout : Value

namespace Gateway

/-- The length to which answers are cut unless something else is said. -/
def defaultMaxTokens : Int := 1000

/-- How many seconds a reply may take unless something else is said. -/
def defaultTimeout : Value := .real (.ofRatio false 60 1)

/-- The answer when a reply holds no text. -/
def emptyReply : String := "I apologize, but I couldn't generate a response at this time."

/-- The part of the library that logs failures of a backend. -/
def source : String := "autoflow.llm.litellm"

/-- The request for a prompt; instructions become the first message, and what is not set is left out. -/
def request (gateway : Gateway) (prompt : Prompt) : Fields :=
  let system : List Value :=
    if prompt.system.truthy then [.ofFields [("role", .text "system"), ("content", prompt.system)]] else []
  [("model", prompt.model), ("messages", .list (system ++ prompt.messages)), ("temperature", prompt.temperature),
    ("max_tokens", prompt.maxTokens.orElse gateway.maxTokens), ("timeout", gateway.timeout)] ++
    (if gateway.apiKey.truthy then [("api_key", gateway.apiKey)] else []) ++
    (if gateway.apiBase.truthy then [("api_base", gateway.apiBase)] else [])

/-! ## Failures -/

/-- Which generation fault a failure of the backend is; an exhausted quota goes before all else. -/
def classify (fault : Fault) : GenerationFault :=
  let text := Text.lower fault.message.toList
  let mentions (word : String) : Bool := Text.occurs word.toList text
  if mentions "quota" then .quota
  else if fault.isOutside .authentication || mentions "401" then .authentication
  else if fault.isOutside .rateLimit || mentions "429" then .rateLimit
  else .general

/-- What users are told of a generation fault. -/
def advice : GenerationFault → String
  | .quota => "API quota exceeded. Please check your provider account."
  | .authentication => "Invalid API key. Please check your API key configuration."
  | .rateLimit => "Rate limit exceeded. Please try again in a moment."
  | .general => "Failed to generate AI response. Please try again."

/-- A failure of the backend as a generation fault. -/
def failure (fault : Fault) : Fault := .generation (classify fault) (advice (classify fault))

/-! ## Replies -/

/-- How diagnostics call the type of a part of a reply. -/
def partName : Value → String
  | .dictionary _ => "types.SimpleNamespace"
  | v => v.typeName

/-- An attribute of an object. -/
def part? (v : Value) (name : String) : Option Value := v.field? name

/-- An attribute that has to be there. -/
def part (v : Value) (name : String) : Except Fault Value :=
  match part? v name with
  | some w => .ok w
  | none => .error (.noAttribute s!"'{partName v}' object has no attribute '{name}'")

/-- Whether a part of a reply counts as present. -/
def isPresent : Value → Bool
  | .dictionary _ => true
  | v => v.truthy

/-- A part of a reply, or another value when it does not count as present. -/
def orElse (v other : Value) : Value := if isPresent v then v else other

/-- The first of a row of choices. -/
def first : Value → Except Fault Value
  | .list (v :: _) => .ok v
  | .tuple (v :: _) => .ok v
  | .text s => .ok (.text (String.ofList (s.toList.take 1)))
  | v => .error (.mistyped s!"'{partName v}' object is not subscriptable")

/-- The first choice of a reply; null when it offers none. -/
def choice (reply : Value) : Except Fault Value := do
  let choices ← part reply "choices"
  if isPresent choices then first choices else return .null

/-- The text of a choice; null when it has no message. -/
def content (choice : Value) : Except Fault Value := do
  if !isPresent choice then return .null
  let message ← part choice "message"
  if isPresent message then part message "content" else return .null

/-- Why the text of a choice ends; empty when there is no choice. -/
def stopReason (choice : Value) : Except Fault Value := do
  if !isPresent choice then return .text ""
  return orElse (← part choice "finish_reason") (.text "")

/-- A count of a reply; zero when it is not given. -/
def count (usage : Value) (name : String) : Value := orElse ((part? usage name).getD (.int 0)) (.int 0)

/-- Reads the reply to a prompt for a model. -/
def read (model reply : Value) : Except Fault Completion := do
  let choice ← choice reply
  let content ← content choice
  let usage := (part? reply "usage").getD .null
  let stopReason ← stopReason choice
  return {
    content := orElse content (.text emptyReply)
    model := orElse ((part? reply "model").getD .null) model
    inputTokens := count usage "prompt_tokens"
    outputTokens := count usage "completion_tokens"
    stopReason }

/-- A gateway to a backend as a provider. -/
def provider (gateway : Gateway) (backend : Backend) : Provider :=
  ⟨fun earlier prompt =>
    match backend (earlier.map gateway.request) (gateway.request prompt) with
    | .ok reply => ⟨read prompt.model reply, []⟩
    | .error fault =>
      ⟨.error (failure fault),
        [{ level := Record.failing, source, message := s!"LLM request failed: {fault.message}",
           model := prompt.model }]⟩⟩

end Gateway

end Chatflow
