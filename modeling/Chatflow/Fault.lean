import Chatflow.Files
import Chatflow.Json.Reader
import Chatflow.Schema.Problem
import Chatflow.Value.Rendered

/-!
# Faults

Why something could not be done.  Each cause is a constructor; `Fault.message` gives the wording, `Fault.isReported`
tells the faults that a command reports to its user.  Faults of code that is not modelled are told by their names and
texts (`Fault.foreign`).
-/

namespace Chatflow

/-- Why no text was generated. -/
inductive GenerationFault where
  | general
  | authentication
  | rateLimit
  | quota
  deriving DecidableEq, Repr

/-- Faults that come from outside: from the code of a caller or from a service. -/
inductive OutsideFault where
  | plain
  | run
  | value
  | key
  | timeout
  | authentication
  | rateLimit
  deriving DecidableEq, Repr

/-- Why the text of a file could not be used. -/
inductive ReadFault where
  | file (fault : FileFault) (path : String)
  | json (mistake : Json.Mistake)

/-- The wording of what is wrong with the text of a file. -/
def ReadFault.message : ReadFault → String
  | .file fault path => fault.message path
  | .json mistake => mistake.message

/-- Why something could not be done. -/
inductive Fault where
  | value (fault : Value.Fault)
  | invalid (report : Schema.Report)
  | generation (kind : GenerationFault) (text : String)
  | outside (kind : OutsideFault) (text : String)
  | mistyped (text : String)
  | noAttribute (text : String)
  | general (text : String)
  | noNodes (workflow : String)
  | noTrigger (workflow : String) (trigger : Value)
  | undelivered (url : String) (reason : String) (status : Option Int)
  | workflowUnreadable (path : String) (why : ReadFault)
  | workflowNoObject (path : String)
  | workflowInvalid (path : String) (report : Schema.Report)
  | historyUnreadable (path : String) (why : ReadFault)
  | historyInvalid (path : String) (report : Schema.Report)
  | inputMalformed (mistake : Json.Mistake)
  | inputNoObject
  | noPair (text : String)
  | beyond (limit : Json.Limit)
  | unreachable (fault : FileFault) (path : String)
  | nullInPath
  | noKind (name : String)
  | takenName (name : String)
  | quotientTooLarge
  | noNumber (text : String)
  | unknownLevel (name : String)
  | noHome
  | undecodable
  | endless
  | foreign (home name text : String)

namespace Fault

/-- The wording of a fault. -/
def message : Fault → String
  | value fault => fault.message
  | invalid report => report.headline
  | generation _ text => text
  | outside .key text => Text.quote text
  | outside .authentication text => "litellm.AuthenticationError: " ++ text
  | outside .rateLimit text => "litellm.RateLimitError: " ++ text
  | outside _ text => text
  | mistyped text => text
  | noAttribute text => text
  | general text => text
  | noNodes workflow => s!"Workflow '{workflow}' has no nodes"
  | noTrigger workflow trigger =>
    s!"Workflow '{workflow}' has no trigger node" ++ (if trigger.truthy then s!" '{trigger.display}'" else "")
  | undelivered url reason _ => s!"Webhook delivery to {url} failed: {reason}"
  | workflowUnreadable path why => s!"Cannot read workflow {path}: {why.message}"
  | workflowNoObject path => s!"Workflow {path} must be a JSON object"
  | workflowInvalid path report => s!"Invalid workflow {path}: {report.headline}"
  | historyUnreadable path why => s!"Cannot read history {path}: {why.message}"
  | historyInvalid path report => s!"Cannot read history {path}: {report.headline}"
  | inputMalformed mistake => s!"--input is not valid JSON: {mistake.message}"
  | inputNoObject => "--input must be a JSON object"
  | noPair text => s!"--var expects KEY=VALUE, got '{text}'"
  | beyond limit => limit.message
  | unreachable fault path => fault.message path
  | nullInPath => "embedded null byte"
  | noKind name => Text.quote name ++ " is not a valid NodeType"
  | takenName name => Text.quote s!"Attempt to overwrite {Text.quote name} in LogRecord"
  | quotientTooLarge => "integer division result too large for a float"
  | noNumber text => "could not convert string to float: " ++ Text.quote text
  | unknownLevel name => "Unknown level: " ++ Text.quote name
  | noHome => "Could not determine home directory."
  | undecodable => "the text is not UTF-8"
  | endless => "it goes on for ever"
  | foreign _ _ text => text

/-- The name under which a fault appears in logs. -/
def name : Fault → String
  | value .tupleKey => "TypeError"
  | value .tooLarge => "OverflowError"
  | value .tooDeep | value .tooLong => "ValueError"
  | value .tooNested => "RecursionError"
  | invalid _ => "ValidationError"
  | generation .general _ => "LLMError"
  | generation .authentication _ => "LLMAuthenticationError"
  | generation .rateLimit _ => "LLMRateLimitError"
  | generation .quota _ => "LLMQuotaError"
  | outside .plain _ => "Exception"
  | outside .run _ => "RuntimeError"
  | outside .value _ => "ValueError"
  | outside .key _ => "KeyError"
  | outside .timeout _ => "TimeoutError"
  | outside .authentication _ => "AuthenticationError"
  | outside .rateLimit _ => "RateLimitError"
  | mistyped _ => "TypeError"
  | noAttribute _ => "AttributeError"
  | general _ | historyUnreadable _ _ | historyInvalid _ _ | inputMalformed _ | inputNoObject | noPair _ =>
    "AutoflowError"
  | noNodes _ | workflowUnreadable _ _ | workflowNoObject _ | workflowInvalid _ _ => "WorkflowDefinitionError"
  | noTrigger _ _ => "TriggerNotFoundError"
  | undelivered _ _ _ => "WebhookDeliveryError"
  | beyond (.depth _) => "RecursionError"
  | unreachable _ _ => "OSError"
  | takenName _ => "KeyError"
  | beyond (.digits _) | nullInPath | noKind _ | noNumber _ | unknownLevel _ => "ValueError"
  | quotientTooLarge => "OverflowError"
  | noHome => "RuntimeError"
  | undecodable => "UnicodeDecodeError"
  | endless => "Endless"
  | foreign _ name _ => name

/-- Where the name of a fault is at home; empty for names that need no home. -/
def home : Fault → String
  | generation _ _ => "autoflow.llm.provider."
  | outside .authentication _ | outside .rateLimit _ => "litellm.exceptions."
  | invalid _ => "pydantic_core._pydantic_core."
  | undelivered _ _ _ => "autoflow.runtime.webhook_delivery."
  | general _ | historyUnreadable _ _ | historyInvalid _ _ | inputMalformed _ | inputNoObject | noPair _
  | noNodes _ | workflowUnreadable _ _ | workflowNoObject _ | workflowInvalid _ _ | noTrigger _ _ =>
    "autoflow.errors."
  | foreign home _ _ => home
  | _ => ""

/-- A fault as the last line of a log entry. -/
def shown (fault : Fault) : String :=
  fault.home ++ fault.name ++ (if fault.message.isEmpty then "" else ": " ++ fault.message)

/-- Whether a command reports a fault to its user; others end the program. -/
def isReported : Fault → Bool
  | general _ | noNodes _ | noTrigger _ _ | undelivered _ _ _ | workflowUnreadable _ _ | workflowNoObject _
  | workflowInvalid _ _ | historyUnreadable _ _ | historyInvalid _ _ | inputMalformed _ | inputNoObject
  | noPair _ => true
  | _ => false

/-- Whether a fault says that no text was generated. -/
def isGeneration : Fault → Bool
  | generation _ _ => true
  | _ => false

/-- Whether a fault says that a webhook was refused or not reached. -/
def isUndelivered : Fault → Bool
  | undelivered _ _ _ => true
  | _ => false

/-- Whether a fault comes from outside and is of a kind. -/
def isOutside (kind : OutsideFault) : Fault → Bool
  | outside k _ => k == kind
  | _ => false

end Fault

end Chatflow
