import Chatflow.Command.Usage
import Chatflow.Command.Words
import Chatflow.Value.Display

/-!
# Invocations

What a command line asks for: to run a workflow, to answer a chat message, or to describe a workflow.  `Invocation.read`
reads a command line; one that is not followed is refused with its texts and an exit code.
-/

namespace Chatflow.Command

/-! ## Grammars -/

/-- The name of the program. -/
def program : String := "autoflow"

/-- The place of the file that holds a workflow. -/
def workflowPlace : Place := ⟨"workflow", "Path to a workflow JSON file"⟩

/-- The flag for answers without a backend. -/
def mockFlag : Flag :=
  { name := "--mock-llm", key := "mock", argument := .value "TEXT" .text,
    help := "Answer every LLM call with TEXT (no API calls)" }

/-- The command lines of the program. -/
def mainGrammar : Grammar where
  program := program
  description := "Autoflow - Run AI assistant workflows"
  flags := [.helpFlag,
    { name := "--log-level", key := "level", argument := .value "LOG_LEVEL" .text,
      help := "DEBUG, INFO, WARNING or ERROR" },
    { name := "--log-format", key := "format",
      argument := .value (braced ["auto", "json", "human"]) (.oneOf ["auto", "json", "human"]),
      help := "Log output format" }]
  commands := [("run", "Execute a workflow manually"), ("chat", "Answer a chat message"),
    ("info", "Show a workflow's graph")]

/-- What stands behind the command that runs a workflow. -/
def runGrammar : Grammar where
  program := program ++ " run"
  flags := [.helpFlag,
    { name := "--trigger", key := "trigger", argument := .value "TRIGGER" .text,
      help := "Trigger node ID (default: first trigger)" },
    { name := "--var", key := "variable", argument := .value "KEY=VALUE" .text,
      help := "Seed a context variable (repeatable)" },
    { name := "--input", key := "input", argument := .value "INPUT" .text,
      help := "Context variables as a JSON object" },
    mockFlag,
    { name := "--max-executions", key := "cap", argument := .value "MAX_EXECUTIONS" .whole,
      help := "Cap on node executions for this run" }]
  places := [workflowPlace]

/-- What stands behind the command that answers a message. -/
def chatGrammar : Grammar where
  program := program ++ " chat"
  flags := [.helpFlag,
    { name := "--history", key := "history", argument := .value "HISTORY" .text,
      help := "JSON file with prior chat messages" },
    { name := "--assistant", key := "assistant", argument := .value "ASSISTANT" .text, help := "Assistant name" },
    { name := "--model", key := "model", argument := .value "MODEL" .text, help := "Model for direct replies" },
    { name := "--temperature", key := "temperature", argument := .value "TEMPERATURE" .real,
      help := "Direct reply temperature (0-100)" },
    { name := "--instructions", key := "instructions", argument := .value "INSTRUCTIONS" .text,
      help := "System instructions for direct replies" },
    mockFlag,
    { name := "--json", key := "json", argument := .nothing, help := "Print the full reply as JSON" }]
  places := [workflowPlace, ⟨"message", "The user's message"⟩]

/-- What stands behind the command that describes a workflow. -/
def infoGrammar : Grammar where
  program := program ++ " info"
  flags := [.helpFlag]
  places := [workflowPlace]

/-! ## Tasks -/

/-- What a run is asked for; null stands for what is left open. -/
structure RunTask where
  workflow : Value
  trigger : Value
  pairs : List Value
  input : Value
  mock : Value
  cap : Value

/-- What a chat turn is asked for; null stands for what is left open. -/
structure ChatTask where
  workflow : Value
  message : Value
  history : Value
  assistant : Value
  model : Value
  temperature : Value
  instructions : Value
  mock : Value
  asJson : Bool

/-- What a command line asks for. -/
inductive Task where
  | run (task : RunTask)
  | chat (task : ChatTask)
  | info (workflow : Value)

/-- The files that a task reads. -/
def Task.paths (task : Task) : List String :=
  let given := match task with
    | .run task => [task.workflow]
    | .chat task => [task.workflow, task.history]
    | .info workflow => [workflow]
  given.filterMap fun v => match v with
    | .text path => some path
    | _ => none

/-- A task and how its journal is kept; null where the command line leaves that open. -/
structure Invocation where
  level : Value
  format : Value
  task : Task

/-- A command line that is not followed: the exit code and what is written. -/
structure Refusal where
  code : Nat
  output : String := ""
  errors : String := ""

/-- A halt as a refusal. -/
def Grammar.refuse (g : Grammar) : Halt → Refusal
  | .help => { code := 0, output := g.help }
  | .misuse message => { code := 2, errors := g.usage ++ s!"{g.program}: error: {message}\n" }

/-- Reads the words of a command line, with its refusals. -/
def Grammar.follow (g : Grammar) (words : List String) : Except Refusal Parsed :=
  match g.parse words with
  | .ok p => .ok p
  | .error halt => .error (g.refuse halt)

/-! ## Reading tasks -/

namespace Parsed

/-- The value that a flag was given last, or another one. -/
def valueOr (p : Parsed) (key : String) (other : Value) : Value := (p.value? key).getD other

/-- The file of the workflow. -/
def workflow (p : Parsed) : Value := p.place workflowPlace.name

/-- The task of a run. -/
def runTask (p : Parsed) : RunTask :=
  { workflow := p.workflow, trigger := p.valueOr "trigger" .null, pairs := p.values "variable",
    input := p.valueOr "input" .null, mock := p.valueOr "mock" .null, cap := p.valueOr "cap" .null }

/-- The task of a chat turn. -/
def chatTask (p : Parsed) : ChatTask :=
  { workflow := p.workflow, message := p.place "message", history := p.valueOr "history" .null,
    assistant := p.valueOr "assistant" (.text "Assistant"), model := p.valueOr "model" .null,
    temperature := p.valueOr "temperature" (.int 30), instructions := p.valueOr "instructions" .null,
    mock := p.valueOr "mock" .null, asJson := (p.value? "json").isSome }

end Parsed

/-- The grammar of a command, and the task that its words make. -/
def commandNamed : String → Grammar × (Parsed → Task)
  | "run" => (runGrammar, fun p => .run p.runTask)
  | "chat" => (chatGrammar, fun p => .chat p.chatTask)
  | _ => (infoGrammar, fun p => .info p.workflow)

/-- Reads a command line.  The words for which neither the program nor the command has a use are told together. -/
def Invocation.read (words : List String) : Except Refusal Invocation := do
  let whole ← mainGrammar.follow words
  let (name, behind) := whole.command.getD ("", [])
  let (grammar, task) := commandNamed name
  let p ← grammar.follow behind
  let rest := whole.rest ++ p.rest
  if rest.isEmpty then
    return { level := whole.valueOr "level" .null, format := whole.valueOr "format" .null, task := task p }
  else throw (mainGrammar.refuse (.misuse ("unrecognized arguments: " ++ String.intercalate " " rest)))

end Chatflow.Command
