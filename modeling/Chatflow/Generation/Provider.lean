import Chatflow.Fault
import Chatflow.Journal.Record

/-!
# Text generation

A provider answers prompts.  Its answer may depend on the prompts that it was asked before, so a provider with a state
of its own is a function of the earlier prompts too.
-/

namespace Chatflow

/-- What a provider is asked: a conversation, the model, how free the answer may be, instructions, and how long it may
get. -/
structure Prompt where
  messages : List Value
  model : Value
  temperature : Value
  system : Value
  maxTokens : Value := .null

/-- What a provider answers. -/
structure Completion where
  content : Value
  model : Value
  inputTokens : Value := .int 0
  outputTokens : Value := .int 0
  stopReason : Value

/-- A provider: what it answers to a prompt after the earlier ones. -/
structure Provider where
  complete : List Prompt → Prompt → Logged (Except Fault Completion)

namespace Prompt

/-- The prompt of a conversation with instructions, which may be missing. -/
def ofTurns (messages : List Value) (model temperature instructions : Value) : Prompt :=
  { messages, model, temperature, system := instructions.orElse (.text "") }

end Prompt

namespace Provider

/-- The text that a provider answers. -/
def generate (provider : Provider) (earlier : List Prompt) (prompt : Prompt) : Logged (Except Fault Value) :=
  let answer := provider.complete earlier prompt
  ⟨answer.result.map (·.content), answer.records⟩

end Provider

end Chatflow
